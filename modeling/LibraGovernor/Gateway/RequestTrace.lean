/-
# LibraGovernor.Gateway.RequestTrace -- the calls of a request that is done

What the monitor allows, told by the calls themselves.  `Story` relates a monitor's state to the calls
so far and each allowed call keeps it, so that it holds along every run of the handler.  Of a request
that is done it says what a ledger of its calls shows (`request_accounts`): what was granted was closed,
settled if the provider billed the request and else released; the provider saw the body only in between;
and there is one record.
-/
import LibraGovernor.Gateway.RequestRuns

namespace LibraGovernor

open Calls

set_option autoImplicit false

/-- A call and its answer. -/
abbrev GatewayEvent := Sigma GatewayCall.Answer

namespace GatewayEvent

def taskGrant? : GatewayEvent → Option ReservationId
  | ⟨.authorize _, some (.granted id _ _)⟩ => some id
  | _ => none

def taskClosing? : GatewayEvent → Option ReservationId
  | ⟨.settleTask id _, _⟩ => some id
  | ⟨.releaseTask id, _⟩ => some id
  | _ => none

def sharedGrant? : GatewayEvent → Option SharedPoolReservationId
  | ⟨.reserveShared _, some (.granted hold)⟩ => some hold.id
  | _ => none

def sharedClosing? : GatewayEvent → Option SharedPoolReservationId
  | ⟨.settleShared settlement, _⟩ => some settlement.hold.id
  | ⟨.releaseShared id, _⟩ => some id
  | _ => none

def isSettlement : GatewayEvent → Bool
  | ⟨.settleTask _ _, _⟩ => true
  | ⟨.settleShared _, _⟩ => true
  | _ => false

def isRelease : GatewayEvent → Bool
  | ⟨.releaseTask _, _⟩ => true
  | ⟨.releaseShared _, _⟩ => true
  | _ => false

def sent? : GatewayEvent → Option UpstreamRequest
  | ⟨.send request, _⟩ => some request
  | _ => none

/-- A response that the provider bills. -/
def billed? : GatewayEvent → Option UpstreamResponse
  | ⟨.send request, answered⟩ =>
      if request.path = Route.messages.upstreamPath then
        answered.filter fun response => statusIsSuccess response.status
      else none
  | _ => none

def row? : GatewayEvent → Option GatewayRequestRecord
  | ⟨.record row, _⟩ => some row
  | _ => none

end GatewayEvent

open GatewayEvent

def HoldState.closed? {α : Type} : HoldState α → Option α
  | .closed hold => some hold
  | _ => none

@[simp] theorem HoldState.hold?_close {α : Type} (h : HoldState α) : h.close.hold? = h.hold? := by
  cases h <;> rfl

theorem HoldState.closed?_of_not_open {α : Type} {h : HoldState α} (ended : h.isOpen = false) :
    h.closed? = h.hold? := by
  cases h with
  | unasked => rfl
  | open_ hold => cases ended
  | closed hold => rfl

/-! ## One call -/

namespace Progress

variable {config : GatewayConfig} {inbound : Inbound} {m : Progress}

theorem next_grants {c : GatewayCall} (a : c.Answer) (allowed : m.allows config inbound c) :
    (m.next c a).task.hold?.toList = m.task.hold?.toList ++ (taskGrant? ⟨c, a⟩).toList := by
  cases c with
  | authorize req =>
      rcases a with _ | (_ | _) <;> simp [next, taskGrant?, allowed.1, HoldState.hold?]
  | reserveShared req => rcases a with _ | (_ | _ | _) <;> simp [next, taskGrant?]
  | _ => simp [next, taskGrant?]

theorem next_closings {c : GatewayCall} (a : c.Answer) (allowed : m.allows config inbound c) :
    (m.next c a).task.closed?.toList = m.task.closed?.toList ++ (taskClosing? ⟨c, a⟩).toList := by
  cases c with
  | authorize req =>
      rcases a with _ | (_ | _) <;> simp [next, taskClosing?, allowed.1, HoldState.closed?]
  | reserveShared req => rcases a with _ | (_ | _ | _) <;> simp [next, taskClosing?]
  | settleTask id actual => simp [next, taskClosing?, allowed.1, HoldState.close, HoldState.closed?]
  | releaseTask id => simp [next, taskClosing?, allowed.2, HoldState.close, HoldState.closed?]
  | _ => simp [next, taskClosing?]

theorem next_sharedGrants {c : GatewayCall} (a : c.Answer) (allowed : m.allows config inbound c) :
    ((m.next c a).shared.hold?.map SharedHold.id).toList =
      (m.shared.hold?.map SharedHold.id).toList ++ (sharedGrant? ⟨c, a⟩).toList := by
  cases c with
  | authorize req => rcases a with _ | (_ | _) <;> simp [next, sharedGrant?]
  | reserveShared req =>
      rcases a with _ | (_ | _ | _) <;> simp [next, sharedGrant?, allowed.2.2.1, HoldState.hold?]
  | _ => simp [next, sharedGrant?]

theorem next_sharedClosings {c : GatewayCall} (a : c.Answer) (allowed : m.allows config inbound c) :
    ((m.next c a).shared.closed?.map SharedHold.id).toList =
      (m.shared.closed?.map SharedHold.id).toList ++ (sharedClosing? ⟨c, a⟩).toList := by
  cases c with
  | authorize req => rcases a with _ | (_ | _) <;> simp [next, sharedClosing?]
  | reserveShared req =>
      rcases a with _ | (_ | _ | _) <;> simp [next, sharedClosing?, allowed.2.2.1, HoldState.closed?]
  | settleShared settlement => simp [next, sharedClosing?, allowed.1, HoldState.close, HoldState.closed?]
  | releaseShared id =>
      obtain ⟨-, -, hold, open_, rfl⟩ := allowed
      simp [next, sharedClosing?, open_, HoldState.close, HoldState.closed?]
  | _ => simp [next, sharedClosing?]

theorem next_billed {c : GatewayCall} (a : c.Answer) (allowed : m.allows config inbound c) :
    (m.next c a).billed.toList = m.billed.toList ++ (billed? ⟨c, a⟩).toList := by
  cases c with
  | authorize req => rcases a with _ | (_ | _) <;> simp [next, billed?]
  | reserveShared req => rcases a with _ | (_ | _ | _) <;> simp [next, billed?]
  | send request =>
      obtain ⟨-, ⟨path, -, -⟩ | ⟨path, covered⟩⟩ := allowed
      · have other : request.path ≠ Route.messages.upstreamPath := by rw [path]; decide
        simp [next, billed?, other]
      · simp [next, billed?, path, covered.unbilled]
  | _ => simp [next, billed?]

theorem next_sends {c : GatewayCall} (a : c.Answer) (allowed : m.allows config inbound c) :
    (m.next c a).sends = m.sends + (sent? ⟨c, a⟩).toList.length ∧ (m.sends ≤ 2 → (m.next c a).sends ≤ 2) := by
  cases c with
  | authorize req => rcases a with _ | (_ | _) <;> simp [next, sent?]
  | reserveShared req => rcases a with _ | (_ | _ | _) <;> simp [next, sent?]
  | send request =>
      refine ⟨by simp [next, sent?], fun _ => ?_⟩
      change m.sends + 1 ≤ 2
      obtain ⟨-, ⟨-, -, none_⟩ | ⟨-, covered⟩⟩ := allowed
      · omega
      · obtain none_ | ⟨one, -, -⟩ := covered.once <;> omega
  | _ => simp [next, sent?]

/-- Nothing is billed or granted any more once the task's reservation is closed. -/
theorem next_closed {c : GatewayCall} (a : c.Answer) (allowed : m.allows config inbound c)
    {id : ReservationId} (closed : m.task = .closed id) :
    (m.next c a).task = .closed id ∧ (m.next c a).billed = m.billed := by
  cases c with
  | authorize req => exact absurd (allowed.1.symm.trans closed) (by simp)
  | reserveShared req => rcases a with _ | (_ | _ | _) <;> exact ⟨closed, rfl⟩
  | send request =>
      obtain ⟨-, ⟨-, unasked, -⟩ | ⟨-, covered⟩⟩ := allowed
      · exact absurd (unasked.symm.trans closed) (by simp)
      · have open_ := covered.task
        rw [closed] at open_
        cases open_
  | settleTask id actual => exact absurd (allowed.1.symm.trans closed) (by simp)
  | releaseTask id => exact absurd (allowed.2.symm.trans closed) (by simp)
  | _ => exact ⟨closed, rfl⟩

theorem next_billed_some {c : GatewayCall} (a : c.Answer) (allowed : m.allows config inbound c)
    {response : UpstreamResponse} (billed : m.billed = some response) :
    (m.next c a).billed = some response := by
  have more := next_billed a allowed
  rw [billed] at more
  cases after : (m.next c a).billed with
  | none => simp [after] at more
  | some later =>
      rw [after] at more
      exact congrArg some (List.cons.inj more).1

/-- The record is the last that says what was reserved. -/
theorem next_recorded {c : GatewayCall} (a : c.Answer) (allowed : m.allows config inbound c)
    (recorded : m.recorded = true) :
    (m.next c a).recorded = true ∧ row? ⟨c, a⟩ = none ∧ (m.next c a).task.hold? = m.task.hold? := by
  cases c with
  | authorize req => exact absurd (recorded.symm.trans allowed.2.1) (by simp)
  | reserveShared req => rcases a with _ | (_ | _ | _) <;> exact ⟨recorded, rfl, rfl⟩
  | settleTask id actual => exact ⟨recorded, rfl, HoldState.hold?_close m.task⟩
  | releaseTask id => exact ⟨recorded, rfl, HoldState.hold?_close m.task⟩
  | record row => exact absurd (recorded.symm.trans allowed.1) (by simp)
  | _ => exact ⟨recorded, rfl, rfl⟩

theorem next_row {c : GatewayCall} (a : c.Answer) (allowed : m.allows config inbound c)
    (unrecorded : m.recorded = false) :
    (m.next c a).recorded = false ∧ row? ⟨c, a⟩ = none ∨
      (m.next c a).recorded = true ∧ ∃ row, row? ⟨c, a⟩ = some row ∧ row.id = inbound.id ∧
        row.reservationId = (m.next c a).task.hold? := by
  cases c with
  | authorize req => rcases a with _ | (_ | _) <;> exact .inl ⟨unrecorded, rfl⟩
  | reserveShared req => rcases a with _ | (_ | _ | _) <;> exact .inl ⟨unrecorded, rfl⟩
  | record row => exact .inr ⟨rfl, row, rfl, allowed.2.2.2.1, allowed.2.2.2.2⟩
  | _ => exact .inl ⟨unrecorded, rfl⟩

theorem next_enforced {c : GatewayCall} (a : c.Answer) (allowed : m.allows config inbound c)
    (enforced : m.enforced = true ∨ (⟨c, a⟩ : GatewayEvent) = ⟨.sharedMode, some .enforce⟩) :
    (m.next c a).enforced = true := by
  rcases enforced with before | now
  · cases c with
    | sharedMode => exact absurd (before.symm.trans allowed.2) (by simp)
    | authorize req => rcases a with _ | (_ | _) <;> exact before
    | reserveShared req => rcases a with _ | (_ | _ | _) <;> exact before
    | _ => exact before
  · cases now
    rfl

end Progress

/-! ## The calls so far -/

open Progress

section Telling

variable (config : GatewayConfig) (inbound : Inbound)

/-- What a monitor's state remembers has happened. -/
structure Heard (m : Progress) (events : List GatewayEvent) : Prop where
  context : ∀ context, m.context = some context → ∃ sessionId, inbound.session config = some sessionId ∧
    ⟨.budgetContext sessionId, some (some context)⟩ ∈ events
  reserved : ∀ req, m.reserved = some req →
    ∃ id reserved approvalRequired,
      ⟨.authorize req, some (.granted id reserved approvalRequired)⟩ ∈ events
  shared : ∀ hold, m.shared.hold? = some hold → ∃ req, SharedReserves config inbound req ∧
    ⟨.reserveShared req, some (.granted hold)⟩ ∈ events
  waived : m.waived = true → ∃ req, SharedReserves config inbound req ∧
    ⟨.reserveShared req, some .notConsulted⟩ ∈ events
  unauthorized : m.unauthorized = true →
    ∃ request response, ⟨.send request, some response⟩ ∈ events ∧ response.status = 401
  refreshed : m.refreshed = true → ⟨.refreshCredential, true⟩ ∈ events

/-- What a settlement books is what the relay of the billed response has read; the task's, in the unit
of its budget and at the price of the body's model. -/
def Books (response : UpstreamResponse) (events : List GatewayEvent) : GatewayEvent → Prop
  | ⟨.settleShared settlement, _⟩ => Relayed config inbound response settlement.facts
  | ⟨.settleTask _ actual, _⟩ => ∃ facts sessionId context model,
      Relayed config inbound response facts ∧ Declares config inbound model ∧
      inbound.session config = some sessionId ∧
      ⟨.budgetContext sessionId, some (some context)⟩ ∈ events ∧
      actual = facts.observed.bind fun usage =>
        (settledCost context.resourceKind usage model config.pricing).toOption
  | _ => True

/-- What the calls so far come to. -/
structure Story (m : Progress) (events : List GatewayEvent) : Prop where
  granted : events.filterMap taskGrant? = m.task.hold?.toList
  closed : events.filterMap taskClosing? = m.task.closed?.toList
  sharedGranted : events.filterMap sharedGrant? = (m.shared.hold?.map SharedHold.id).toList
  sharedClosed : events.filterMap sharedClosing? = (m.shared.closed?.map SharedHold.id).toList
  billed : events.filterMap billed? = m.billed.toList
  sends : (events.filterMap sent?).length = m.sends
  twice : m.sends ≤ 2
  settled : ∀ e ∈ events, e.isSettlement = true →
    ∃ response, m.billed = some response ∧ Books config inbound response events e
  released : ∀ e ∈ events, e.isRelease = true → m.billed = none ∧ ∃ id, m.task = .closed id
  unrecorded : m.recorded = false → events.filterMap row? = []
  recorded : m.recorded = true → ∃ row, events.filterMap row? = [row] ∧ row.id = inbound.id ∧
    row.reservationId = m.task.hold?
  enforced : ⟨.sharedMode, some .enforce⟩ ∈ events → m.enforced = true
  heard : Heard config inbound m events

variable {config inbound} {m : Progress} {events : List GatewayEvent}

theorem Heard.later (heard : Heard config inbound m events) (e : GatewayEvent) :
    Heard config inbound m (events ++ [e]) where
  context context given := by
    obtain ⟨sessionId, named, mem⟩ := heard.context context given
    exact ⟨sessionId, named, List.mem_append_left _ mem⟩
  reserved req given := by
    obtain ⟨id, reserved, approvalRequired, mem⟩ := heard.reserved req given
    exact ⟨id, reserved, approvalRequired, List.mem_append_left _ mem⟩
  shared hold given := by
    obtain ⟨req, own, mem⟩ := heard.shared hold given
    exact ⟨req, own, List.mem_append_left _ mem⟩
  waived given := by
    obtain ⟨req, own, mem⟩ := heard.waived given
    exact ⟨req, own, List.mem_append_left _ mem⟩
  unauthorized given := by
    obtain ⟨request, response, mem, status⟩ := heard.unauthorized given
    exact ⟨request, response, List.mem_append_left _ mem, status⟩
  refreshed given := List.mem_append_left _ (heard.refreshed given)

theorem Heard.congr (heard : Heard config inbound m events) {m' : Progress}
    (same : m'.context = m.context ∧ m'.reserved = m.reserved ∧ m'.shared.hold? = m.shared.hold? ∧
      m'.waived = m.waived ∧ m'.unauthorized = m.unauthorized ∧ m'.refreshed = m.refreshed) :
    Heard config inbound m' events := by
  obtain ⟨context, reserved, shared, waived, unauthorized, refreshed⟩ := same
  exact ⟨context ▸ heard.context, reserved ▸ heard.reserved, shared ▸ heard.shared,
    waived ▸ heard.waived, unauthorized ▸ heard.unauthorized, refreshed ▸ heard.refreshed⟩

theorem Heard.keep (heard : Heard config inbound m events) {c : GatewayCall} (a : c.Answer)
    (allowed : m.allows config inbound c) :
    Heard config inbound (m.next c a) (events ++ [⟨c, a⟩]) := by
  have last : (⟨c, a⟩ : GatewayEvent) ∈ events ++ [⟨c, a⟩] :=
    List.mem_append_right _ (List.mem_singleton_self _)
  have later := heard.later ⟨c, a⟩
  cases c with
  | budgetContext sessionId =>
      refine { later with context := fun context given => ?_ }
      have answered : a = some (some context) := Option.join_eq_some_iff.mp given
      exact ⟨sessionId, allowed.2, answered ▸ last⟩
  | authorize req =>
      rcases a with _ | (⟨id, reserved, approvalRequired⟩ | denial)
      · exact later
      · refine { later with reserved := fun req' given => ?_ }
        cases given
        exact ⟨id, reserved, approvalRequired, last⟩
      · exact later
  | reserveShared req =>
      rcases a with _ | (_ | hold | denial)
      · exact later
      · exact { later with waived := fun _ => ⟨req, allowed.2.2.2, last⟩ }
      · refine { later with shared := fun hold' given => ?_ }
        cases given
        exact ⟨req, allowed.2.2.2, last⟩
      · exact later
  | refreshCredential =>
      refine { later with refreshed := fun given => ?_ }
      have answered : a = true := given
      exact answered ▸ last
  | send request =>
      refine { later with unauthorized := fun given => ?_ }
      cases a with
      | none => cases given
      | some response => exact ⟨request, response, last, of_decide_eq_true given⟩
  | settleShared settlement =>
      exact later.congr ⟨rfl, rfl, HoldState.hold?_close m.shared, rfl, rfl, rfl⟩
  | releaseShared id =>
      exact later.congr ⟨rfl, rfl, HoldState.hold?_close m.shared, rfl, rfl, rfl⟩
  | _ => exact later.congr ⟨rfl, rfl, rfl, rfl, rfl, rfl⟩

theorem Books.later {response : UpstreamResponse} {e : GatewayEvent}
    (books : Books config inbound response events e) (last : GatewayEvent) :
    Books config inbound response (events ++ [last]) e := by
  obtain ⟨c, a⟩ := e
  cases c with
  | settleTask id actual =>
      obtain ⟨facts, sessionId, context, model, relayed, declares, session, told, priced⟩ := books
      exact ⟨facts, sessionId, context, model, relayed, declares, session,
        List.mem_append_left _ told, priced⟩
  | settleShared settlement => exact books
  | _ => trivial

theorem filterMap_snoc {α β : Type} (f : α → Option β) (xs : List α) (x : α) :
    (xs ++ [x]).filterMap f = xs.filterMap f ++ (f x).toList := by
  rw [List.filterMap_append]
  cases given : f x <;> simp [given]

theorem Story.keep (story : Story config inbound m events) {c : GatewayCall} (a : c.Answer)
    (allowed : m.allows config inbound c) :
    Story config inbound (m.next c a) (events ++ [⟨c, a⟩]) where
  granted := by rw [filterMap_snoc, story.granted, Progress.next_grants a allowed]
  closed := by rw [filterMap_snoc, story.closed, Progress.next_closings a allowed]
  sharedGranted := by rw [filterMap_snoc, story.sharedGranted, Progress.next_sharedGrants a allowed]
  sharedClosed := by rw [filterMap_snoc, story.sharedClosed, Progress.next_sharedClosings a allowed]
  billed := by rw [filterMap_snoc, story.billed, Progress.next_billed a allowed]
  sends := by
    rw [filterMap_snoc, List.length_append, story.sends]
    exact (Progress.next_sends a allowed).1.symm
  twice := (Progress.next_sends a allowed).2 story.twice
  settled := by
    intro e mem settles
    rcases List.mem_append.mp mem with before | now
    · obtain ⟨response, billed, books⟩ := story.settled e before settles
      exact ⟨response, Progress.next_billed_some a allowed billed, books.later ⟨c, a⟩⟩
    · obtain rfl := List.mem_singleton.mp now
      cases c with
      | settleTask id actual =>
          obtain ⟨-, facts, context, model, ⟨response, billed, relayed⟩, declares, asked, priced⟩ := allowed
          obtain ⟨sessionId, session, told⟩ := story.heard.context context asked
          exact ⟨response, billed, facts, sessionId, context, model, relayed, declares, session,
            List.mem_append_left _ told, priced⟩
      | settleShared settlement =>
          obtain ⟨-, facts, ⟨response, billed, relayed⟩, rfl⟩ := allowed
          exact ⟨response, billed, relayed⟩
      | _ => cases settles
  released := by
    intro e mem releases
    rcases List.mem_append.mp mem with before | now
    · obtain ⟨unbilled, id, closed⟩ := story.released e before releases
      obtain ⟨stays, same⟩ := Progress.next_closed a allowed closed
      exact ⟨same.trans unbilled, id, stays⟩
    · obtain rfl := List.mem_singleton.mp now
      cases c with
      | releaseTask id => exact ⟨allowed.1, id, by simp [Progress.next, allowed.2, HoldState.close]⟩
      | releaseShared id => exact ⟨allowed.1, allowed.2.1⟩
      | _ => cases releases
  unrecorded := by
    intro after
    rw [filterMap_snoc]
    cases before : m.recorded with
    | true =>
        rw [(Progress.next_recorded a allowed before).1] at after
        cases after
    | false =>
        obtain ⟨-, none_⟩ | ⟨now, -⟩ := Progress.next_row a allowed before
        · rw [story.unrecorded before, none_]
          rfl
        · rw [now] at after
          cases after
  recorded := by
    intro after
    rw [filterMap_snoc]
    cases before : m.recorded with
    | true =>
        obtain ⟨-, none_, same⟩ := Progress.next_recorded a allowed before
        rw [none_, same, Option.toList_none, List.append_nil]
        exact story.recorded before
    | false =>
        obtain ⟨still, -⟩ | ⟨-, row, now, named⟩ := Progress.next_row a allowed before
        · rw [still] at after
          cases after
        · rw [story.unrecorded before, now]
          exact ⟨row, rfl, named⟩
  enforced := by
    intro mem
    rcases List.mem_append.mp mem with before | now
    · exact Progress.next_enforced a allowed (.inl (story.enforced before))
    · exact Progress.next_enforced a allowed (.inr (List.mem_singleton.mp now).symm)
  heard := story.heard.keep a allowed

/-- A reservation for the task of the request's session, of the worst case of the body. -/
structure Costs (config : GatewayConfig) (inbound : Inbound) (before : List GatewayEvent) (body : Bytes)
    (req : SpendRequest) : Prop where
  key : req.idempotencyKey = "gw:" ++ inbound.id
  session : inbound.session config = some req.sessionId
  amount : ∃ context model, ⟨.budgetContext req.sessionId, some (some context)⟩ ∈ before ∧
    req.taskId = context.taskId ∧ (parseMessagesEnvelope (config.json body)).model = some model ∧
    worstCaseReservation context.resourceKind body.length
      (parseMessagesEnvelope (config.json body)).maxTokens model (requestsFastSpeed (config.json body))
      config.pricing = .ok req.amount

/-- A message was sent over its reservations. -/
structure Shielded (config : GatewayConfig) (inbound : Inbound) (before : List GatewayEvent)
    (request : UpstreamRequest) : Prop where
  body : readBody config.maxRequestBytes [] inbound.frames = .ok request.body
  held : ∃ req id reserved approvalRequired, Costs config inbound before request.body req ∧
    ⟨.authorize req, some (.granted id reserved approvalRequired)⟩ ∈ before ∧
    before.filterMap taskGrant? = [id] ∧ before.filterMap taskClosing? = []
  shared : ⟨.sharedMode, some .enforce⟩ ∈ before →
    (∃ req, SharedReserves config inbound req ∧ ⟨.reserveShared req, some .notConsulted⟩ ∈ before) ∨
      ∃ req hold, SharedReserves config inbound req ∧ ⟨.reserveShared req, some (.granted hold)⟩ ∈ before ∧
        before.filterMap sharedGrant? = [hold.id] ∧ before.filterMap sharedClosing? = []
  again : before.filterMap sent? = [] ∨ ⟨.refreshCredential, true⟩ ∈ before ∧
    ∃ first response, ⟨.send first, some response⟩ ∈ before ∧ response.status = 401

theorem HoldState.of_open {α : Type} {h : HoldState α} (isOpen : h.isOpen = true) :
    ∃ hold, h.hold? = some hold ∧ h.closed? = none := by
  cases h with
  | open_ hold => exact ⟨hold, rfl, rfl⟩
  | unasked => cases isOpen
  | closed hold => cases isOpen

theorem Story.costs (story : Story config inbound m events) {body : Bytes}
    (read : readBody config.maxRequestBytes [] inbound.frames = .ok body) {req : SpendRequest}
    (reserves : Reserves config inbound m req) : Costs config inbound events body req := by
  obtain ⟨key, session, context, body', model, asked, task, read', declared, cost⟩ := reserves
  rw [read] at read'
  cases read'
  obtain ⟨sessionId, named, told⟩ := story.heard.context context asked
  rw [session] at named
  cases named
  exact ⟨key, session, context, model, told, task, declared, cost⟩

theorem Story.shielded (story : Story config inbound m events) {request : UpstreamRequest}
    (allowed : m.allows config inbound (.send request))
    (path : request.path = Route.messages.upstreamPath) : Shielded config inbound events request := by
  obtain ⟨sends, ⟨counts, -⟩ | ⟨-, covered⟩⟩ := allowed
  · rw [path] at counts
    exact absurd counts (by decide)
  refine ⟨sends.body, ?_, fun enforce => ?_, ?_⟩
  · obtain ⟨req, reserved, reserves⟩ := covered.cost
    obtain ⟨id, amount, approvalRequired, granted⟩ := story.heard.reserved req reserved
    obtain ⟨held, some_, unclosed⟩ := HoldState.of_open covered.task
    have grants : events.filterMap taskGrant? = [held] := by rw [story.granted, some_]; rfl
    have mine : id ∈ events.filterMap taskGrant? := List.mem_filterMap.mpr ⟨_, granted, rfl⟩
    rw [grants] at mine
    obtain rfl := List.mem_singleton.mp mine
    exact ⟨req, id, amount, approvalRequired, story.costs sends.body reserves, granted, grants,
      by rw [story.closed, unclosed]; rfl⟩
  · rcases covered.shared (story.enforced enforce) with waived | isOpen
    · exact .inl (story.heard.waived waived)
    · obtain ⟨hold, held, unclosed⟩ := HoldState.of_open isOpen
      obtain ⟨req, own, granted⟩ := story.heard.shared hold held
      exact .inr ⟨req, hold, own, granted, by rw [story.sharedGranted, held]; rfl,
        by rw [story.sharedClosed, unclosed]; rfl⟩
  · rcases covered.once with none_ | ⟨-, unauthorized, refreshed⟩
    · exact .inl (List.length_eq_zero_iff.mp (story.sends.trans none_))
    · exact .inr ⟨story.heard.refreshed refreshed, story.heard.unauthorized unauthorized⟩

theorem Story.start : Story config inbound {} [] where
  granted := rfl
  closed := rfl
  sharedGranted := rfl
  sharedClosed := rfl
  billed := rfl
  sends := rfl
  twice := Nat.zero_le 2
  settled := fun _ mem => absurd mem List.not_mem_nil
  released := fun _ mem => absurd mem List.not_mem_nil
  unrecorded := fun _ => rfl
  recorded := fun recorded => by cases recorded
  enforced := fun mem => absurd mem List.not_mem_nil
  heard := ⟨fun _ given => (by cases given), fun _ given => (by cases given),
    fun _ given => (by cases given), fun given => (by cases given), fun given => (by cases given),
    fun given => (by cases given)⟩

/-- Wherever a run of the handler gets, some monitor's state tells its story and allows what is left. -/
theorem story_along {program : GatewayProgram GatewayResponse}
    (runs : Runs (handleRequest config inbound) events program) :
    ∃ m, Story config inbound m events ∧ Obeys (Progress.monitor config inbound)
      (fun m _ => Progress.Finished m) m program := by
  refine Obeys.along (fun m events c a story allowed => ?_) runs (request_obeys config inbound)
    Story.start
  exact Story.keep story a allowed

end Telling

/-- The calls of a request that is done. -/
structure Accounted (config : GatewayConfig) (inbound : Inbound) (events : List GatewayEvent) : Prop where
  once : (events.filterMap taskGrant?).length ≤ 1
  closed : events.filterMap taskClosing? = events.filterMap taskGrant?
  sharedOnce : (events.filterMap sharedGrant?).length ≤ 1
  sharedClosed : events.filterMap sharedClosing? = events.filterMap sharedGrant?
  settled : ∀ e ∈ events, e.isSettlement = true → ∃ response, events.filterMap billed? = [response] ∧
    Books config inbound response events e
  released : ∀ e ∈ events, e.isRelease = true → events.filterMap billed? = []
  recorded : ∃ row, events.filterMap row? = [row] ∧ row.id = inbound.id ∧
    row.reservationId = (events.filterMap taskGrant?).head?
  twice : (events.filterMap sent?).length ≤ 2
  shielded : ∀ before request answer after, events = before ++ ⟨.send request, answer⟩ :: after →
    request.path = Route.messages.upstreamPath → Shielded config inbound before request

theorem toList_length_le {α : Type} (x : Option α) : x.toList.length ≤ 1 := by
  cases x <;> simp

/-- Whatever the authorities, the credential store and the provider answer: a request that is done has
closed what it was granted, once, in the task budget and in the shared one, released if the provider did
not bill it and else settled with what its relay has read, at the price of the body's model; it has left
one record, which names the reservation; and whenever its body was sent, at most twice, the worst case of
that body was reserved for the task of its session and not yet closed, and so was the hold that the shared
budget granted for the same body. -/
theorem request_accounts (config : GatewayConfig) (inbound : Inbound) {events : List GatewayEvent}
    {response : GatewayResponse}
    (runs : Runs (handleRequest config inbound) events (.done response)) :
    Accounted config inbound events := by
  obtain ⟨m, story, finished⟩ := story_along runs
  refine ⟨?_, ?_, ?_, ?_, fun e mem settles => ?_, fun e mem releases => ?_, ?_, ?_, ?_⟩
  · rw [story.granted]
    exact toList_length_le _
  · rw [story.granted, story.closed, HoldState.closed?_of_not_open finished.task]
  · rw [story.sharedGranted]
    exact toList_length_le _
  · rw [story.sharedGranted, story.sharedClosed, HoldState.closed?_of_not_open finished.shared]
  · obtain ⟨response, billed, books⟩ := story.settled e mem settles
    exact ⟨response, by rw [story.billed, billed]; rfl, books⟩
  · rw [story.billed, (story.released e mem releases).1]
    rfl
  · obtain ⟨row, one, named, reservation⟩ := story.recorded finished.recorded
    refine ⟨row, one, named, ?_⟩
    rw [reservation, story.granted]
    cases m.task.hold? <;> rfl
  · rw [story.sends]
    exact story.twice
  · rintro before request answer after rfl path
    obtain ⟨rest, here, -⟩ := runs.split
    obtain ⟨m', before_, obeys⟩ := story_along here
    exact before_.shielded obeys.1 path

/-! ## Poles -/

/-- A gateway that holds the credential, with a shared budget, and every message of 100 tokens. -/
def localGateway : GatewayConfig where
  hosts := ["localhost"]
  governorHeld := true
  token := "token"
  sessionHeader := "x-session"
  origin := "provider"
  maxRequestBytes := 8
  ttlSecs := 60
  pricing := .pinned
  hasShared := true
  hasCredentials := true
  wellFormed _ := true
  json _ := some (.object [("max_tokens", .number (.integer 100)), ("model", .string "model")])
  frame _ := none

def smallMessage (id : String) : Inbound where
  id := id
  method := "POST"
  path := "/v1/messages"
  query := none
  headers := [("host", .text "localhost"), ("x-api-key", .text "token"), ("x-session", .text "session")]
  frames := [.frame (some [1, 2, 3])]
  permit := true

/-- Both budgets grant, and the provider answers with this status. -/
def granting (status : Nat) : (c : GatewayCall) → c.Answer
  | .sharedMode => some .enforce
  | .budgetContext _ => some (some ⟨⟨7⟩, .tokens⟩)
  | .authorize req => some (.granted ⟨1⟩ req.amount false)
  | .reserveShared _ => some (.granted ⟨⟨2⟩, 1, 9, "model", 100⟩)
  | .currentCredential => some "key"
  | .refreshCredential => true
  | .send _ => some ⟨status, [], [.renewal, .frame (some [4]) true]⟩
  | .renewShared _ _ => ()
  | .settleShared _ => ()
  | .releaseShared _ => ()
  | .settleTask _ _ => ()
  | .releaseTask _ => ()
  | .record _ => ()

def handled (status : Nat) : List GatewayEvent × GatewayResponse :=
  (handleRequest localGateway (smallMessage "first")).follow (granting status)

/-- Accepted, it is settled; refused twice, it is released.  The shared budget is asked about its three
bytes and its hundred tokens. -/
theorem handled_accounts :
    ((handled 200).1.any fun e => decide (e.1 =
      .reserveShared ⟨"session", "model", 3, some 100, 0, false, "first", 60⟩)) = true ∧
    ((handled 200).1.filterMap billed?).length = 1 ∧
    (handled 200).1.filterMap sharedClosing? = [⟨2⟩] ∧ (handled 200).1.any isSettlement = true ∧
    ((handled 401).1.filterMap sent?).length = 2 ∧ (handled 401).1.any isRelease = true ∧
    Accounted localGateway (smallMessage "first") (handled 200).1 ∧
    Accounted localGateway (smallMessage "first") (handled 401).1 := by
  refine ⟨by decide +kernel, by decide +kernel, by decide +kernel, by decide +kernel, by decide +kernel,
    by decide +kernel, ?_, ?_⟩
  · exact request_accounts localGateway (smallMessage "first") (Program.runs_follow (granting 200) _)
  · exact request_accounts localGateway (smallMessage "first") (Program.runs_follow (granting 401) _)

end LibraGovernor
