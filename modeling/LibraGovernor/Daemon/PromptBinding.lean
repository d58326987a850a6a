/-
# LibraGovernor.Daemon.PromptBinding -- a prompt stays with its hold

A prompt that a hold has accepted stays bound to it through every later request.  An
admission that names the prompt while another hold, or none, is live is a delayed replay:
it hands out no hold, opens none and binds nothing.  A `Stop` that names the prompt
settles that hold or nothing, and settles it only while it is the lane's newest and
unsettled.
-/
import LibraGovernor.Daemon.Admission

namespace LibraGovernor

open Relational Transaction Transition Procedure

set_option autoImplicit false

/-! ## The binding -/

theorem holdForPrompt_recordHoldPrompt (s : LedgerStore) (lane lane' prompt prompt' : String)
    (id : SharedPoolReservationId) :
    (s.recordHoldPrompt principal lane prompt id).holdForPrompt principal lane' prompt' =
      if (lane', prompt') = (lane, prompt) then some id
      else s.holdForPrompt principal lane' prompt' := by
  simp only [LedgerStore.holdForPrompt, LedgerStore.find?_recordHoldPrompt, Prod.mk.injEq, true_and]
  split
  · rfl
  · rfl

section Binding

variable {s s' : LedgerStore} {ctx : GateContext} {agentId mainPrompt : Option String}
  {lane prompt : String} {h : SharedPoolReservationId}

/-- Binding a prompt leaves the others where they are, and one that was free for the hold. -/
theorem binding_kept {ids : List SharedPoolReservationId} {id : SharedPoolReservationId}
    (free : FreeFor ctx s mainPrompt ids) (own : ∀ id' ∈ ids, id' = id)
    (bound : s.holdForPrompt principal lane prompt = some h)
    (same : s'.holdPrompts = s.holdPrompts) :
    (s'.recordHoldPrompt? principal ctx.lane mainPrompt id).holdForPrompt principal lane prompt =
      some h := by
  have still : s'.holdForPrompt principal lane prompt = some h := by
    rw [LedgerStore.holdForPrompt, same]
    exact bound
  cases mainPrompt with
  | none => exact still
  | some named =>
      refine (holdForPrompt_recordHoldPrompt s' ctx.lane lane named prompt id).trans ?_
      split
      · rename_i here
        simp only [Prod.mk.injEq] at here
        obtain ⟨rfl, rfl⟩ := here
        rw [own h (free prompt rfl h bound)]
      · exact still

theorem holdForPrompt_forgetPrompts {id : SharedPoolReservationId} (other : h ≠ id)
    (bound : s.holdForPrompt principal lane prompt = some h) :
    (s.forgetPrompts id).holdForPrompt principal lane prompt = some h := by
  obtain ⟨p, found, rfl⟩ := Option.map_eq_some_iff.mp bound
  obtain ⟨mem, key⟩ := (Table.find?_eq_some_iff _ _ _).mp found
  refine Option.map_eq_some_iff.mpr ⟨p, ?_, rfl⟩
  refine (Table.find?_eq_some_iff _ _ _).mpr ⟨?_, key⟩
  exact (Table.mem_delete _ _ _).mpr ⟨mem, by simpa using other⟩

theorem AdmitStep.keeps_binding {r : Except SharedBudgetError SharedBudgetOutcome}
    (step : AdmitStep ctx agentId mainPrompt s r s') (inv : LanesInv s)
    (bound : s.holdForPrompt principal lane prompt = some h) :
    s'.holdForPrompt principal lane prompt = some h := by
  cases step with
  | idle none => exact bound
  | renewed live later free names =>
      refine binding_kept free ?_ bound rfl
      intro id mem
      exact List.mem_singleton.mp mem
  | opened vacant free hold names =>
      obtain ⟨-, -, -, -, -, -, prompts⟩ := LedgerStore.insertReservation_ok hold.inserted
      exact binding_kept free nofun bound prompts
  | @withdrawn e row mid vacant free hold =>
      obtain ⟨inserted, -, -, -, -, -, prompts⟩ := LedgerStore.insertReservation_ok hold.inserted
      -- The prompt's own hold is a row that was there before, so it is not the one taken back.
      obtain ⟨old, mem, here⟩ := inv.bound_some bound
      have other : h ≠ row.id := by
        rintro rfl
        have unused := ((Table.insert?_eq_some_iff _ _ _).mp inserted).1
        exact (Table.find?_eq_none_iff _ _).mp unused old mem here
      exact holdForPrompt_forgetPrompts other (binding_kept free nofun bound prompts)

theorem BudgetOp.apply_binding (sha256Hex : String → String) (rfc : OffsetDateTime → String)
    (inv : LanesInv s) (op : BudgetOp) (bound : s.holdForPrompt principal lane prompt = some h) :
    (op.apply sha256Hex rfc s).holdForPrompt principal lane prompt = some h := by
  have quietly : ∀ {s'}, Quiet s s' → s'.holdForPrompt principal lane prompt = some h := by
    intro s' quiet
    rw [LedgerStore.holdForPrompt, quiet.holdPrompts]
    exact bound
  obtain quiet | ⟨rt, sessionId, agentId, promptId, provider, nonces, rfl⟩ :=
    BudgetOp.apply_quiet sha256Hex rfc s op
  · exact quietly quiet
  · obtain ⟨-, quiet⟩ | ⟨ctx, mid, -, quiet, -, step⟩ :=
      admit_post inv rt sessionId agentId promptId provider nonces
    · exact quietly quiet
    · exact step.keeps_binding (inv.quiet quiet) (quietly quiet)

theorem run_binding (sha256Hex : String → String) (rfc : OffsetDateTime → String) (inv : LanesInv s)
    (bound : s.holdForPrompt principal lane prompt = some h) (ops : List BudgetOp) :
    (run (BudgetOp.apply sha256Hex rfc) s ops).holdForPrompt principal lane prompt = some h := by
  have keep : ∀ s op, (LanesInv s ∧ s.holdForPrompt principal lane prompt = some h) →
      LanesInv (BudgetOp.apply sha256Hex rfc s op) ∧
        (BudgetOp.apply sha256Hex rfc s op).holdForPrompt principal lane prompt = some h :=
    fun s op both => ⟨BudgetOp.apply_inv sha256Hex rfc both.1 op,
      BudgetOp.apply_binding sha256Hex rfc both.1 op both.2⟩
  exact (run_invariant_always keep ⟨inv, bound⟩ ops).2

end Binding

/-! ## A delayed admission -/

/-- Nothing is opened and nothing is bound: the rows are those of before, grown older. -/
structure Untouched (s s' : LedgerStore) : Prop where
  rows : ∀ r' ∈ s'.reservations, ∃ r ∈ s.reservations, Ages r r'
  holdPrompts : s'.holdPrompts = s.holdPrompts

theorem Untouched.refl (s : LedgerStore) : Untouched s s := ⟨fun r mem => ⟨r, mem, .refl r⟩, rfl⟩

theorem ensurePool_untouched {s s' : LedgerStore} {poolId : PoolId} {cfg : SharedBudgetConfig}
    {now : OffsetDateTime} {pool : QuotaPool}
    (done : s.ensurePool poolId .usdCents cfg.monthlyCapUsdCents now = .ok (pool, s')) :
    s'.reservations = s.reservations ∧ s'.holdPrompts = s.holdPrompts :=
  ⟨LedgerStore.ensurePool_reservations done, (LedgerStore.ensurePool_ok done).2.2.1⟩

/-- The sweep frees no hold that is live at its own time. -/
theorem activeSharedHoldForLane_expire {s s' : LedgerStore} {now : OffsetDateTime}
    {out : List SharedPoolReservation}
    (done : s.expireStaleSharedPoolReservations now = .ok (out, s')) (poolId : PoolId) (lane : Lane) :
    s'.activeSharedHoldForLane poolId principal lane now =
      s.activeSharedHoldForLane poolId principal lane now := by
  rw [LedgerStore.expireStaleSharedPoolReservations_ok done]
  simp only [LedgerStore.activeSharedHoldForLane]
  congr 1
  refine filter_map_eq_filter ?_
  intro r _
  by_cases old : LedgerStore.stale now r = true
  · refine .inr ?_
    rw [if_pos old]
    simp only [LedgerStore.stale, decide_eq_true_eq] at old
    refine ⟨?_, ?_⟩
    · unfold LedgerStore.resolveStale
      split
      · simp [LedgerStore.liveOnLane, SharedPoolRow.book]
      · simp [LedgerStore.liveOnLane, SharedPoolRow.expire]
    · simp [LedgerStore.liveOnLane, not_lt.mpr old.2]
  · exact .inl (if_neg old)

theorem expire_ages {s s' : LedgerStore} {now : OffsetDateTime} {out : List SharedPoolReservation}
    (done : s.expireStaleSharedPoolReservations now = .ok (out, s')) :
    ∀ r' ∈ s'.reservations, ∃ r ∈ s.reservations, Ages r r' := by
  rw [LedgerStore.expireStaleSharedPoolReservations_ok done]
  intro r' mem
  obtain ⟨r, was, rfl⟩ := (LedgerStore.mem_updateReservations _ _ _ _).mp mem
  refine ⟨r, was, ?_⟩
  by_cases old : LedgerStore.stale now r = true
  · rw [if_pos old]
    simp only [LedgerStore.stale, decide_eq_true_eq] at old
    exact .of_move (LedgerStore.resolveStale_move old.1) (by simp [old.1])
  · rw [if_neg old]
    exact .refl r

/-- The hold is not the lane's live one when the request runs. -/
def NotLive (s : LedgerStore) (rt : SharedBudgetRuntime) (lane : String)
    (h : SharedPoolReservationId) : Prop :=
  ∀ cfg period, rt.state = .valid cfg → periodAt cfg rt.now = .ok period →
    (s.activeSharedHoldForLane period.poolId principal (mainLane lane) rt.now).map (fun r => r.id) ≠
      some h

/-- What a delayed replay gets: no hold, nothing opened and nothing bound, and a refusal when
the request comes to reserving. -/
structure Replayed (rt : SharedBudgetRuntime) (sessionId : String) (provider : Option String)
    (s : LedgerStore) (r : Except SharedBudgetError SharedBudgetOutcome) (s' : LedgerStore) : Prop where
  unnamed : NamesNone r
  untouched : Untouched s s'
  refused : ∀ ctx, (gateContext rt sessionId none provider s).1 = .ok (.ok ctx) →
    ¬ (ctx.cfg.enforcement = .gateway ∧ isClaudeProvider provider = true) →
    ∀ outcome, r = .ok outcome → outcome = .refused .keyConflict

section Replay

variable {s : LedgerStore} {rt : SharedBudgetRuntime} {sessionId lane prompt : String}
  {provider promptId : Option String} {h : SharedPoolReservationId}

theorem admitOnLane_replayed {ctx : GateContext}
    (bound : s.holdForPrompt principal ctx.lane prompt = some h)
    (kind : ctx.kind = .agentAbsent)
    (gone : (s.activeSharedHoldForLane ctx.period.poolId principal (mainLane ctx.lane) ctx.now).map
      (fun r => r.id) ≠ some h) (nonces : AdmitNonces) :
    admitOnLane rt ctx none (some prompt) nonces s = (.ok (.refused .keyConflict), s) := by
  have replay : delayedReplay s ctx (s.activeSharedHoldForLane ctx.period.poolId principal
      ⟨ctx.lane, none, ctx.kind⟩ ctx.now) (some prompt) = true := by
    simp only [delayedReplay, bound, decide_eq_true_eq]
    rw [kind]
    exact gone
  unfold admitOnLane
  change (if delayedReplay s ctx _ (some prompt) = true then
    (pure (.refused .keyConflict) : Daemon SharedBudgetOutcome) else _) s = _
  rw [if_pos replay]
  rfl

theorem admit_replayed (named : budgetLane sessionId provider = .ok lane)
    (usable : usablePrompt promptId = some prompt)
    (bound : s.holdForPrompt principal lane prompt = some h) (gone : NotLive s rt lane h)
    (nonces : AdmitNonces) :
    Replayed rt sessionId provider s (admitTurn rt sessionId none promptId provider nonces s).1
      (admitTurn rt sessionId none promptId provider nonces s).2 := by
  suffices triple : Triple (· = s) (admitTurn rt sessionId none promptId provider nonces)
      (Replayed rt sessionId provider s) from triple s rfl
  have failed : ∀ e s', Untouched s s' → Replayed rt sessionId provider s (.error e) s' := by
    intro e s' same
    refine ⟨namesNone_error e, same, ?_⟩
    rintro ctx - - outcome ⟨⟩
  unfold admitTurn
  refine Triple.bind (M := fun answer s' => s' = s ∧
    (gateContext rt sessionId none provider s).1 = .ok answer ∧
    (∀ ctx, answer = .ok ctx → GateReady rt sessionId none provider ctx) ∧
    ∀ outcome, answer = .error outcome → outcome.hold = none) ?_ fun answer => ?_
  · rintro s' rfl
    obtain ⟨kept, known⟩ := gateContext_triple rt sessionId none provider s' s' rfl
    split
    · rename_i answer answered
      refine ⟨kept, answered, ?_, ?_⟩
      · rintro ctx rfl
        exact known _ answered
      · rintro outcome rfl
        exact known _ answered
    · rw [kept]
      exact failed _ _ (.refl s')
  cases answer with
  | error outcome =>
      refine Triple.pure ?_
      rintro s' ⟨rfl, answered, -, none⟩
      refine ⟨?_, .refl s', ?_⟩
      · rintro _ ⟨⟩
        exact none _ rfl
      · intro ctx passed
        rw [answered] at passed
        cases passed
  | ok ctx =>
      dsimp only
      split
      · rename_i gateway
        rintro s' ⟨rfl, answered, -⟩
        obtain ⟨none, same⟩ := gatewayAnswer_post rt ctx none s'
        refine ⟨none, ?_, ?_⟩
        · rw [same]
          exact .refl s'
        · intro ctx' passed open_
          rw [answered] at passed
          cases passed
          exact absurd gateway open_
      refine Triple.bind (M := fun _ mid => mid.reservations = s.reservations ∧
        mid.holdPrompts = s.holdPrompts ∧ GateReady rt sessionId none provider ctx) ?_ fun pool => ?_
      · refine Triple.transact ?_ ?_
        · rintro _ pool mid ⟨rfl, -, ready, -⟩ done
          obtain ⟨rows, prompts⟩ := ensurePool_untouched done
          exact ⟨rows, prompts, ready ctx rfl⟩
        · rintro _ e ⟨rfl, -⟩ -
          exact failed _ _ (.refl _)
      refine Triple.bind (M := fun _ mid => Untouched s mid ∧
        mid.holdForPrompt principal ctx.lane prompt = some h ∧ ctx.kind = .agentAbsent ∧
        (mid.activeSharedHoldForLane ctx.period.poolId principal (mainLane ctx.lane) ctx.now).map
          (fun r => r.id) ≠ some h) ?_ fun resolved => ?_
      · refine Triple.transact ?_ ?_
        · rintro before out mid ⟨rows, prompts, ready⟩ done
          have lane_eq : ctx.lane = lane := Except.ok.inj (ready.lane.symm.trans named)
          have quiet := LedgerStore.expireStaleSharedPoolReservations_ok done
          have kept : mid.holdPrompts = s.holdPrompts := by
            rw [quiet]
            exact prompts
          refine ⟨⟨?_, kept⟩, ?_, ready.kind, ?_⟩
          · rw [← rows]
            exact expire_ages done
          · rw [LedgerStore.holdForPrompt, kept, lane_eq]
            exact bound
          · rw [activeSharedHoldForLane_expire done, LedgerStore.activeSharedHoldForLane, rows, lane_eq,
              ready.now]
            exact gone ctx.cfg ctx.period ready.valid ready.period
        · rintro before e ⟨rows, prompts, -⟩ -
          refine failed _ _ ⟨?_, prompts⟩
          rw [rows]
          exact (Untouched.refl s).rows
      · rintro mid ⟨untouched, still, kind, absent⟩
        rw [usable, admitOnLane_replayed still kind absent]
        refine ⟨?_, untouched, ?_⟩
        · rintro outcome ⟨⟩
          rfl
        · rintro ctx' - - outcome ⟨⟩
          rfl

end Replay

/-! ## A Stop -/

/-- The lane's newest turn hold, still to be settled, is the one of `id`. -/
def PendingIs (s : LedgerStore) (lane : String) (r : SharedPoolRow) : Prop :=
  newestHold ((laneHolds s lane).filter turnSource) = some r ∧ unsettled r = true

theorem pendingHold_iff (s : LedgerStore) (lane : String) (r : SharedPoolRow) :
    pendingHold (laneHolds s lane) = some r ↔ PendingIs s lane r := by
  simp only [pendingHold, PendingIs, Option.filter_eq_some_iff]

theorem pendingHold_mem {s : LedgerStore} {lane : String} {r : SharedPoolRow}
    (pending : PendingIs s lane r) : r ∈ s.reservations := by
  have mem := pick_mem pending.1
  exact (List.mem_filter.mp (List.mem_filter.mp mem).1).1

/-- Every row stays but that of the hold `h`, which was pending; what is added is a charge of
nothing. -/
structure OnlySettles (lane : String) (h : SharedPoolReservationId) (s s' : LedgerStore) : Prop where
  kept : ∀ r ∈ s.reservations, r ∈ s'.reservations ∨ r.id = h ∧ PendingIs s lane r
  added : ∀ r' ∈ s'.reservations, (∃ r ∈ s.reservations, r.id = r'.id) ∨
    r'.isCharge = true ∧ r'.amount = 0

theorem OnlySettles.refl (lane : String) (h : SharedPoolReservationId) (s : LedgerStore) :
    OnlySettles lane h s s :=
  ⟨fun _ mem => .inl mem, fun r' mem => .inl ⟨r', mem, rfl⟩⟩

section Stop

variable {s mid s' : LedgerStore} {lane : String} {h : SharedPoolReservationId}

/-- Settling the pending hold. -/
theorem settles_pending {target : SharedPoolRow} (pending : PendingIs s lane target)
    (rt : SharedBudgetRuntime) (holds : List SharedPoolRow) (source : TranscriptSource)
    (bookFlat : Bool) :
    OnlySettles lane target.id s
      (settleHoldFromWindow rt rt.state lane holds target source bookFlat s).2 := by
  suffices triple : Triple (· = s) (settleHoldFromWindow rt rt.state lane holds target source bookFlat)
      fun _ s' => OnlySettles lane target.id s s' from triple s rfl
  have unchanged : ∀ s', s' = s → OnlySettles lane target.id s s' := by
    rintro s' rfl
    exact .refl _ _ _
  unfold settleHoldFromWindow
  refine Triple.read_bind fun window => ?_
  split
  · exact Triple.pure fun s' same => unchanged s' same.1
  simp only
  split
  · exact Triple.pure fun s' same => unchanged s' same.1
  refine Triple.bind (M := fun _ s' => OnlySettles lane target.id s s') ?_ fun outcome =>
    Triple.pure fun s' only => only
  refine Triple.transact ?_ ?_
  · rintro _ outcome s' ⟨rfl, -⟩ done
    obtain rfl | ⟨row, supplied, columns, found, -, -, rfl⟩ := LedgerStore.settleSharedCore_ok done
    · exact .refl _ _ _
    · refine ⟨?_, ?_⟩
      · intro r mem
        by_cases here : r.id = target.id
        · have same := Table.eq_of_key _ (pendingHold_mem pending) mem here.symm
          exact .inr ⟨here, same ▸ pending⟩
        · refine .inl ((LedgerStore.mem_updateReservations _ _ _ _).mpr ⟨r, mem, if_neg here⟩)
      · intro r' mem
        obtain ⟨r, was, rfl⟩ := (LedgerStore.mem_updateReservations _ _ _ _).mp mem
        refine .inl ⟨r, was, ?_⟩
        split
        · rfl
        · rfl
  · rintro _ e ⟨rfl, -⟩ -
    exact .refl _ _ _

/-- A row that names a mark carries one. -/
theorem LanesInv.marked (inv : LanesInv s) {r : SharedPoolRow} (mem : r ∈ s.reservations)
    (named : startsWith r.idempotencyKey gatewayMarkPrefix = true) : r.watermarkTs ≠ none := by
  have conflict : ∀ {p}, startsWith r.idempotencyKey p = true → startsWith p gatewayMarkPrefix = false →
      startsWith gatewayMarkPrefix p = false → False := by
    intro p starts apart apart'
    rw [startsWith_conflict starts apart apart'] at named
    cases named
  obtain turn | charge | gateway := inv.rows r mem
  · obtain ⟨tag, id, key⟩ := turn.key
    refine (conflict (p := "hold:") ?_ (by decide) (by decide)).elim
    rw [key]
    exact holdKey_startsWith _ _ _ _
  · exact charge.marked named
  · exact (conflict gateway.key (by decide) (by decide)).elim

theorem gatewayMarkCharge_key (cfg : SharedBudgetConfig) (poolId : PoolId) (sessionId : String)
    (now : OffsetDateTime) :
    startsWith (gatewayMarkCharge cfg poolId sessionId now).idempotencyKey gatewayMarkPrefix = true := by
  change startsWith ("gateway-mark:" ++ lp sessionId ++ "|" ++ toString now) "gateway-mark:" = true
  rw [String.append_assoc, String.append_assoc]
  exact startsWith_append _ _

/-- A row that carries a mark adopts none. -/
theorem adoptWatermark_of_marked {existing : SharedPoolRow} (mem : existing ∈ s.reservations)
    (marked : existing.watermarkTs ≠ none) (columns : Option OffsetDateTime × Option (List String))
    (r : SharedPoolRow) :
    r ∈ (s.adoptWatermark existing columns).reservations ↔ r ∈ s.reservations := by
  unfold LedgerStore.adoptWatermark
  split
  · have same : ∀ r ∈ s.reservations,
        (if (decide (r.id = existing.id ∧ r.watermarkTs = none)) = true then
          SharedPoolRow.mark columns.1 columns.2 r else r) = r := by
      intro r mem'
      refine if_neg ?_
      rw [decide_eq_true_eq]
      rintro ⟨here, unmarked⟩
      rw [Table.eq_of_key _ mem' mem here] at unmarked
      exact marked unmarked
    refine (LedgerStore.mem_updateReservations _ _ _ r).trans ⟨?_, ?_⟩
    · rintro ⟨r', mem', rfl⟩
      rw [same r' mem']
      exact mem'
    · intro mem'
      exact ⟨r, mem', same r mem'⟩
  · exact Iff.rfl

/-- Moving the gateway's mark changes no row that is there. -/
theorem advanceGatewayMark_only (inv : LanesInv s) (rt : SharedBudgetRuntime)
    (cfg : SharedBudgetConfig) (fresh : SharedPoolReservationId) :
    (∀ r ∈ s.reservations, r ∈ (advanceGatewayMark rt cfg lane fresh s).2.reservations) ∧
      ∀ r' ∈ (advanceGatewayMark rt cfg lane fresh s).2.reservations, r' ∈ s.reservations ∨
        r'.isCharge = true ∧ r'.amount = 0 := by
  let Post := fun s' : LedgerStore => (∀ r ∈ s.reservations, r ∈ s'.reservations) ∧
    ∀ r' ∈ s'.reservations, r' ∈ s.reservations ∨ r'.isCharge = true ∧ r'.amount = 0
  suffices triple : Triple (· = s) (advanceGatewayMark rt cfg lane fresh) fun _ s' => Post s' from
    triple s rfl
  have unchanged : ∀ s', s' = s → Post s' := by
    rintro s' rfl
    exact ⟨fun _ mem => mem, fun _ mem => .inl mem⟩
  unfold advanceGatewayMark
  split
  · exact Triple.pure fun s' same => unchanged s' same
  refine Triple.keep_bind ?_ (fun e s' same => unchanged s' same) fun routed => ?_
  · exact Keeps.bind (keeps_periodOf _ _) fun _ => Keeps.read _
  split
  · refine periodOf_bind (fun e s' same => unchanged s' same) fun period _ => ?_
    refine Triple.bind (M := fun _ s' => Post s') ?_ fun marked => ?_
    · refine Triple.attempt ?_ fun s' e same _ => unchanged s' same
      rintro _ out s' rfl done
      obtain ⟨existing, columns, mem, key, settled, rfl, rfl⟩ | ⟨rfl, -⟩ |
        ⟨attribution, columns, _, _, _, -, -, -, -, inserted⟩ :=
        LedgerStore.chargeSharedWithWatermark_ok done
      · simp only [SharedPoolRow.uniqueKey, Prod.mk.injEq] at key
        have marked := inv.marked mem (by
          rw [key.2.2]
          exact gatewayMarkCharge_key cfg period.poolId lane rt.now)
        have same := adoptWatermark_of_marked mem marked columns
        refine ⟨fun r mem => (same r).mpr mem, fun r mem => .inl ((same r).mp mem)⟩
      · exact unchanged s' rfl
      · have inserted := (LedgerStore.insertReservation_ok inserted).1
        refine ⟨fun r mem => (Table.mem_insert? inserted r).mpr (.inl mem), ?_⟩
        intro r' mem
        rcases (Table.mem_insert? inserted r').mp mem with old | rfl
        · exact .inl old
        · exact .inr ⟨rfl, rfl⟩
    · split
      · exact Triple.pure fun s' post => post
      · exact Triple.pure fun s' post => post
      · exact Triple.fail fun s' post => post
  · exact Triple.pure fun s' same => unchanged s' same

/-- Settling the pending hold, as a `Stop` runs it. -/
theorem settlePending_only {target : SharedPoolRow}
    (pending : pendingHold (laneHolds s lane) = some target) (rt : SharedBudgetRuntime)
    (source : TranscriptSource) :
    OnlySettles lane target.id s (settlePending rt lane (laneHolds s lane) source s).2 := by
  suffices triple : Triple (· = s) (settlePending rt lane (laneHolds s lane) source) fun _ s' =>
      OnlySettles lane target.id s s' from triple s rfl
  unfold settlePending
  rw [pending]
  refine Triple.bind (M := fun _ s' => OnlySettles lane target.id s s') ?_ fun outcome => ?_
  · rintro s' rfl
    have only := settles_pending ((pendingHold_iff s' lane target).mp pending) rt (laneHolds s' lane)
      source true
    split
    · exact only
    · exact only
  · cases outcome with
    | settled settlement => exact Triple.pure fun _ only => only
    | notBooked reason => exact Triple.pure fun _ only => only

/-- What moving the mark adds to a `Stop`. -/
theorem OnlySettles.marked (only : OnlySettles lane h s mid) (inv : LanesInv mid)
    (rt : SharedBudgetRuntime) (cfg : SharedBudgetConfig) (fresh : SharedPoolReservationId) :
    OnlySettles lane h s (advanceGatewayMark rt cfg lane fresh mid).2 := by
  obtain ⟨kept, added⟩ := advanceGatewayMark_only inv rt cfg fresh
  refine ⟨?_, ?_⟩
  · intro r mem
    obtain still | settled := only.kept r mem
    · exact .inl (kept r still)
    · exact .inr settled
  · intro r' mem
    obtain was | charge := added r' mem
    · exact only.added r' was
    · exact .inr charge

/-- A `Stop` that names a prompt settles the hold that accepted it, or nothing. -/
theorem settleTurn_only (inv : LanesInv s) {promptId : Option String} {prompt : String}
    (usable : usablePrompt promptId = some prompt)
    (bound : s.holdForPrompt principal lane prompt = some h) (rt : SharedBudgetRuntime)
    (source : TranscriptSource) (fresh : SharedPoolReservationId) :
    OnlySettles lane h s (settleTurn rt lane source promptId fresh s).2 := by
  suffices triple : Triple (· = s) (settleTurn rt lane source promptId fresh) fun _ s' =>
      OnlySettles lane h s s' from triple s rfl
  have unchanged : ∀ s', s' = s → OnlySettles lane h s s' := by
    rintro s' rfl
    exact .refl _ _ _
  unfold settleTurn
  split
  · exact Triple.pure unchanged
  split
  · exact Triple.pure unchanged
  refine Triple.read_bind fun holds => Triple.read_bind fun replay => ?_
  split
  · exact Triple.pure fun s' same => unchanged s' same.1.1
  rename_i state _ _ _ timely
  refine Triple.bind (M := fun _ s' => OnlySettles lane h s s' ∧ LanesInv s') ?_ fun settlement => ?_
  · rintro s' ⟨⟨rfl, rfl⟩, replay_eq⟩
    -- The Stop is no replay, so the pending hold is the one that accepted the prompt.
    have own : (pendingHold (laneHolds s' lane)).map (fun r => r.id) = some h := by
      rw [usable] at replay_eq
      simp only [replayedStop, bound] at replay_eq
      rw [← replay_eq] at timely
      simpa using timely
    obtain ⟨target, pending, rfl⟩ := Option.map_eq_some_iff.mp own
    have only := settlePending_only pending rt source
    have still := inv.quiet (settlePending_quiet rt lane (laneHolds s' lane) source s')
    split
    · exact ⟨only, still⟩
    · exact only
  · split
    · rename_i cfg _
      split
      · refine Triple.bind (M := fun _ s' => OnlySettles lane h s s') ?_ fun _ =>
          Triple.pure fun _ only => only
        rintro mid ⟨only, still⟩
        have marked := only.marked still rt cfg fresh
        split
        · exact marked
        · exact marked
      · exact Triple.pure fun _ both => both.1
    · exact Triple.pure fun _ both => both.1

end Stop

/-- A prompt that a hold accepted stays with that hold through every run; a delayed admission of
it hands out and writes nothing; and a `Stop` that names it settles that hold or nothing. -/
theorem prompt_binding_stable (sha256Hex : String → String) (rfc : OffsetDateTime → String)
    (before : List BudgetOp) (lane prompt : String) (h : SharedPoolReservationId)
    (bound : (run (BudgetOp.apply sha256Hex rfc) .empty before).holdForPrompt principal lane prompt =
      some h) :
    (∀ after, (run (BudgetOp.apply sha256Hex rfc) .empty (before ++ after)).holdForPrompt principal
      lane prompt = some h) ∧
    (∀ rt sessionId promptId provider nonces, budgetLane sessionId provider = .ok lane →
      usablePrompt promptId = some prompt →
      NotLive (run (BudgetOp.apply sha256Hex rfc) .empty before) rt lane h →
      Replayed rt sessionId provider (run (BudgetOp.apply sha256Hex rfc) .empty before)
        (admitTurn rt sessionId none promptId provider nonces
          (run (BudgetOp.apply sha256Hex rfc) .empty before)).1
        (admitTurn rt sessionId none promptId provider nonces
          (run (BudgetOp.apply sha256Hex rfc) .empty before)).2) ∧
    ∀ rt source promptId fresh, usablePrompt promptId = some prompt →
      OnlySettles lane h (run (BudgetOp.apply sha256Hex rfc) .empty before)
        (settleTurn rt lane source promptId fresh
          (run (BudgetOp.apply sha256Hex rfc) .empty before)).2 := by
  have inv := BudgetOp.run_inv sha256Hex rfc before
  refine ⟨?_, ?_, ?_⟩
  · intro after
    rw [run_append]
    exact run_binding sha256Hex rfc inv bound after
  · intro rt sessionId promptId provider nonces named usable gone
    exact admit_replayed named usable bound gone nonces
  · intro rt source promptId fresh usable
    exact settleTurn_only inv usable bound rt source fresh

/-! ## Poles -/

/-- The session's transcript cannot be read. -/
def unread : TranscriptSource := ⟨none, .error .noTranscriptPath⟩

/-- A prompt and its `Stop`. -/
def stopped : List BudgetOp :=
  admitted ++ [.settleTurn (hooksRuntime january) "session" unread (some "prompt-1") ⟨3⟩]

theorem stopped_bound :
    (run (BudgetOp.apply (fun s => s) fun _ => "") .empty stopped).holdForPrompt principal "session"
      "prompt-1" = some ⟨1⟩ := by decide +kernel

/-- A later `Stop` for the same prompt settles that hold or nothing. -/
theorem stopped_again :
    OnlySettles "session" ⟨1⟩ (run (BudgetOp.apply (fun s => s) fun _ => "") .empty stopped)
      (settleTurn (hooksRuntime january) "session" unread (some "prompt-1") ⟨4⟩
        (run (BudgetOp.apply (fun s => s) fun _ => "") .empty stopped)).2 :=
  (prompt_binding_stable (fun s => s) (fun _ => "") stopped "session" "prompt-1" ⟨1⟩
    stopped_bound).2.2 _ _ _ _ rfl

/-- The budget is flipped to the gateway before the prompt's delayed admission. -/
def flippedConfig : SharedBudgetConfig := { hooksConfig with enforcement := .gateway }

def flippedRuntime : SharedBudgetRuntime :=
  { state := .valid flippedConfig, now := january, gatewayRun := .governorHeld }

/-- The delayed admission is answered, not refused, when the gateway meters the lane. -/
theorem replay_metered :
    ¬ ∀ (before : List BudgetOp) (rt : SharedBudgetRuntime) (h : SharedPoolReservationId)
      (nonces : AdmitNonces),
      (run (BudgetOp.apply (fun s => s) fun _ => "") .empty before).holdForPrompt principal "session"
        "prompt-1" = some h →
      NotLive (run (BudgetOp.apply (fun s => s) fun _ => "") .empty before) rt "session" h →
      ∀ outcome, (admitTurn rt "session" none (some "prompt-1") none nonces
        (run (BudgetOp.apply (fun s => s) fun _ => "") .empty before)).1 = .ok outcome →
          ∃ reason, outcome = .refused reason := by
  intro refused
  have gone : NotLive (run (BudgetOp.apply (fun s => s) fun _ => "") .empty stopped) flippedRuntime
      "session" ⟨1⟩ := by
    have none : ((periodAt flippedConfig flippedRuntime.now).toOption.all fun period =>
        decide (((run (BudgetOp.apply (fun s => s) fun _ => "") .empty stopped).activeSharedHoldForLane
          period.poolId principal (mainLane "session") flippedRuntime.now).map (fun r => r.id) ≠
            some ⟨1⟩)) = true := by decide +kernel
    rintro cfg period ⟨⟩ current
    generalize run (BudgetOp.apply (fun s => s) fun _ => "") .empty stopped = s at none ⊢
    rw [current] at none
    exact of_decide_eq_true none
  have gateway : (admitTurn flippedRuntime "session" none (some "prompt-1") none (turnNonces 5)
      (run (BudgetOp.apply (fun s => s) fun _ => "") .empty stopped)).1.toOption =
        some (.gatewayMetered 990 1769904000000000000) := by decide +kernel
  have answered := refused stopped flippedRuntime ⟨1⟩ (turnNonces 5) stopped_bound gone
  generalize (admitTurn _ _ _ _ _ _ _).1 = answer at gateway answered
  cases answer with
  | error e => cases gateway
  | ok outcome =>
      cases gateway
      obtain ⟨reason, ⟨⟩⟩ := answered _ rfl

end LibraGovernor
