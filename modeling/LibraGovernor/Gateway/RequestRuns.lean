/-
# LibraGovernor.Gateway.RequestRuns -- what a request asks for, and in which order

The monitor of a request says when each call may be made: the provider is called for a message only
while the task reservation is held, and the shared one too where it is enforced; a second time only
after a 401 and a fresh credential; what was reserved is the worst case of the body that is sent; a
hold is released only if the provider did not bill the request, and settled only if it did; the record
is written once, when nothing is held any more, and names the reservation.

Each function of the handler obeys the monitor from the state its caller leaves (`Before`, `Holding`),
whatever the calls answer, and so does the handler (`request_obeys`).
-/
import LibraGovernor.Gateway.Request

namespace LibraGovernor

open Calls

set_option autoImplicit false

/-- A hold: not granted, granted and open, or closed. -/
inductive HoldState (α : Type) where
  | unasked
  | open_ (hold : α)
  | closed (hold : α)
  deriving DecidableEq, Repr

namespace HoldState

variable {α : Type}

def hold? : HoldState α → Option α
  | .unasked => none
  | .open_ hold => some hold
  | .closed hold => some hold

def isOpen : HoldState α → Bool
  | .open_ _ => true
  | _ => false

def close : HoldState α → HoldState α
  | .open_ hold => .closed hold
  | other => other

end HoldState

/-- The session that a request names. -/
def Inbound.session (config : GatewayConfig) (inbound : Inbound) : Option String :=
  ((inbound.headers.get config.sessionHeader).bind HeaderValue.toStr).filter fun s => decide (s ≠ "")

/-- How far a request has got. -/
structure Progress where
  task : HoldState ReservationId := .unasked
  shared : HoldState SharedHold := .unasked
  enforced : Bool := false
  waived : Bool := false
  context : Option BudgetContext := none
  reserved : Option SpendRequest := none
  issued : Option String := none
  sends : Nat := 0
  unauthorized : Bool := false
  refreshed : Bool := false
  billed : Option UpstreamResponse := none
  recorded : Bool := false
  deriving DecidableEq, Repr

namespace Progress

def next (m : Progress) : (c : GatewayCall) → c.Answer → Progress
  | .sharedMode, mode => { m with enforced := decide (mode = some .enforce) }
  | .budgetContext _, context => { m with context := context.join }
  | .authorize req, some (.granted id _ _) => { m with task := .open_ id, reserved := some req }
  | .authorize _, _ => m
  | .reserveShared _, some (.granted hold) => { m with shared := .open_ hold }
  | .reserveShared _, some .notConsulted => { m with waived := true }
  | .reserveShared _, _ => m
  | .currentCredential, value => { m with issued := value }
  | .refreshCredential, refreshed => { m with refreshed := refreshed }
  | .send request, answered =>
      { m with
        sends := m.sends + 1
        unauthorized := answered.any fun response => decide (response.status = 401)
        billed :=
          if request.path = Route.messages.upstreamPath then
            (answered.filter fun response => statusIsSuccess response.status).or m.billed
          else m.billed }
  | .renewShared _ _, _ => m
  | .settleShared _, _ => { m with shared := m.shared.close }
  | .releaseShared _, _ => { m with shared := m.shared.close }
  | .settleTask _ _, _ => { m with task := m.task.close }
  | .releaseTask _, _ => { m with task := m.task.close }
  | .record _, _ => { m with recorded := true }

section Allowed

variable (config : GatewayConfig) (inbound : Inbound)

/-- The credential that goes with a request: the store's where the gateway holds one, else the
caller's own. -/
def Issued (m : Progress) (credential : Option (String × HeaderValue)) : Prop :=
  if config.governorHeld then
    ∀ header ∈ credential, ∃ value, m.issued = some value ∧ header = ("x-api-key", .text value)
  else
    ∀ header ∈ credential, ∃ bare original,
      presentedCredential inbound.headers = .one bare original header.1 ∧ header.2 = .text original

/-- What is sent is the inbound body to the configured origin, without the headers that are
stripped and with the credential. -/
structure Sends (m : Progress) (request : UpstreamRequest) : Prop where
  origin : request.origin = config.origin
  body : readBody config.maxRequestBytes [] inbound.frames = .ok request.body
  headers : ∃ credential, Issued config inbound m credential ∧
    request.headers = (inbound.headers.filter fun header =>
      !strippedRequestHeaders.contains header.1) ++ credential.toList

/-- What is reserved is the worst case of the body, in the unit of the task's budget. -/
structure Reserves (m : Progress) (req : SpendRequest) : Prop where
  key : req.idempotencyKey = "gw:" ++ inbound.id
  session : inbound.session config = some req.sessionId
  amount : ∃ context body model, m.context = some context ∧ req.taskId = context.taskId ∧
    readBody config.maxRequestBytes [] inbound.frames = .ok body ∧
    (parseMessagesEnvelope (config.json body)).model = some model ∧
    worstCaseReservation context.resourceKind body.length
      (parseMessagesEnvelope (config.json body)).maxTokens model (requestsFastSpeed (config.json body))
      config.pricing = .ok req.amount

/-- What the shared budget is asked to hold is the cost of the body: of its model, its length, its
bound on the output, its images and its speed. -/
structure SharedReserves (req : SharedReserveRequest) : Prop where
  own : req.requestId = inbound.id
  session : inbound.session config = some req.sessionId
  ttl : req.ttlSecs = config.ttlSecs
  body : ∃ body, readBody config.maxRequestBytes [] inbound.frames = .ok body ∧
    (parseMessagesEnvelope (config.json body)).model = some req.model ∧ req.bodyBytes = body.length ∧
    req.maxTokens = (parseMessagesEnvelope (config.json body)).maxTokens ∧
    req.imageCount = imageBlockCount (config.json body) ∧
    req.fastRequested = requestsFastSpeed (config.json body)

/-- The model that the body declares. -/
def Declares (model : String) : Prop :=
  ∃ body, readBody config.maxRequestBytes [] inbound.frames = .ok body ∧
    (parseMessagesEnvelope (config.json body)).model = some model

/-- What the relay of a response has read. -/
def Relayed (response : UpstreamResponse) (facts : TapFacts) : Prop :=
  ∃ body, readBody config.maxRequestBytes [] inbound.frames = .ok body ∧
    facts = pumpFacts config.frame
      (isEventStream response (parseMessagesEnvelope (config.json body)).stream) response.events

/-- What the relay of the response that is billed has read. -/
def Learns (m : Progress) (facts : TapFacts) : Prop :=
  ∃ response, m.billed = some response ∧ Relayed config inbound response facts

/-- A message may be sent. -/
structure Covered (m : Progress) : Prop where
  task : m.task.isOpen = true
  cost : ∃ req, m.reserved = some req ∧ Reserves config inbound m req
  shared : m.enforced = true → m.waived = true ∨ m.shared.isOpen = true
  once : m.sends = 0 ∨ m.sends = 1 ∧ m.unauthorized = true ∧ m.refreshed = true
  unbilled : m.billed = none

def allows (m : Progress) : GatewayCall → Prop
  | .sharedMode => m.task = .unasked ∧ m.enforced = false
  | .budgetContext sessionId => m.task = .unasked ∧ inbound.session config = some sessionId
  | .authorize req => m.task = .unasked ∧ m.recorded = false ∧ Reserves config inbound m req
  | .reserveShared req =>
      m.enforced = true ∧ m.task.isOpen = true ∧ m.shared = .unasked ∧ SharedReserves config inbound req
  | .currentCredential => True
  | .refreshCredential => m.unauthorized = true
  | .send request => Sends config inbound m request ∧
      (request.path = Route.countTokens.upstreamPath ∧ m.task = .unasked ∧ m.sends = 0 ∨
        request.path = Route.messages.upstreamPath ∧ Covered config inbound m)
  | .renewShared id _ => m.billed.isSome = true ∧ ∃ hold, m.shared = .open_ hold ∧ hold.id = id
  | .settleShared settlement =>
      m.shared = .open_ settlement.hold ∧ ∃ facts, Learns config inbound m facts ∧
        settlement.facts = facts
  | .releaseShared id =>
      m.billed = none ∧ (∃ task, m.task = .closed task) ∧ ∃ hold, m.shared = .open_ hold ∧ hold.id = id
  | .settleTask id actual =>
      m.task = .open_ id ∧ ∃ facts context model, Learns config inbound m facts ∧
        Declares config inbound model ∧ m.context = some context ∧
        actual = facts.observed.bind fun usage =>
          (settledCost context.resourceKind usage model config.pricing).toOption
  | .releaseTask id => m.billed = none ∧ m.task = .open_ id
  | .record row => m.recorded = false ∧ m.task.isOpen = false ∧ m.shared.isOpen = false ∧
      row.id = inbound.id ∧ row.reservationId = m.task.hold?

def monitor : Monitor GatewayCall GatewayCall.Answer Progress := ⟨allows config inbound, next⟩

end Allowed

/-- Nothing is held, and the record is written once. -/
structure Finished (m : Progress) : Prop where
  task : m.task.isOpen = false
  shared : m.shared.isOpen = false
  recorded : m.recorded = true

end Progress

open Progress

section Obeying

variable {config : GatewayConfig} {inbound : Inbound} {m : Progress} {record : GatewayRequestRecord}
  {id : ReservationId} {hold : Option SharedHold} {presented : PresentedCredential} {body : Bytes}

/-! ## States of a request -/

/-- What `run` ends with. -/
structure RunEnds (inbound : Inbound) (m : Progress) (served : Served) : Prop where
  task : m.task.isOpen = false
  shared : m.shared.isOpen = false
  recorded : m.recorded = served.pumpOwnsRecord
  row : served.record.id = inbound.id
  reservation : served.record.reservationId = m.task.hold?

/-- Nothing is reserved yet. -/
structure Before (inbound : Inbound) (m : Progress) (record : GatewayRequestRecord) : Prop where
  task : m.task = .unasked
  shared : m.shared = .unasked
  sends : m.sends = 0
  billed : m.billed = none
  recorded : m.recorded = false
  row : record.id = inbound.id
  reservation : record.reservationId = none

/-- The task's reservation is held, and the shared one if there is one. -/
structure Holding (inbound : Inbound) (id : ReservationId) (hold : Option SharedHold) (m : Progress)
    (record : GatewayRequestRecord) : Prop where
  task : m.task = .open_ id
  shared : m.shared = (hold.map HoldState.open_).getD .unasked
  recorded : m.recorded = false
  row : record.id = inbound.id
  reservation : record.reservationId = some id

theorem Before.ends (before : Before inbound m record) (response : GatewayResponse) :
    RunEnds inbound m ⟨response, record, false⟩ where
  task := by rw [before.task]; rfl
  shared := by rw [before.shared]; rfl
  recorded := before.recorded
  row := before.row
  reservation := by rw [before.task]; exact before.reservation

/-- A record that keeps its id and its reservation. -/
theorem Before.of_record (before : Before inbound m record) {record' : GatewayRequestRecord}
    (row : record'.id = record.id) (reservation : record'.reservationId = record.reservationId) :
    Before inbound m record' :=
  { before with row := row.trans before.row, reservation := reservation.trans before.reservation }

theorem Holding.of_record (holding : Holding inbound id hold m record) {record' : GatewayRequestRecord}
    (row : record'.id = record.id) (reservation : record'.reservationId = record.reservationId) :
    Holding inbound id hold m record' :=
  { holding with row := row.trans holding.row, reservation := reservation.trans holding.reservation }

theorem obeys_reject (before : Before inbound m record) {record' : GatewayRequestRecord}
    (same : record'.id = record.id ∧ record'.reservationId = record.reservationId) (status : Nat)
    (decision : GatewayDecision) (reason : String) :
    Obeys (monitor config inbound) (RunEnds inbound) m (reject record' status decision reason) := by
  change RunEnds inbound m
    ⟨_, { record' with decision := decision, terminalState := .rejectedBeforeUpstream }, false⟩
  refine Before.ends (before.of_record ?_ ?_) _
  · exact same.1
  · exact same.2

/-! ## Sending -/

theorem obeys_credential (mine : presented = presentedCredential inbound.headers) :
    Obeys (monitor config inbound) (fun m' credential => (∃ issued, m' = { m with issued := issued }) ∧
      Issued config inbound m' credential) m (outboundCredential config presented) := by
  unfold outboundCredential
  cases held : config.governorHeld with
  | true =>
      rw [if_pos rfl]
      cases config.hasCredentials with
      | true =>
          refine ⟨trivial, fun value => ⟨⟨value, rfl⟩, ?_⟩⟩
          rw [Issued, if_pos held]
          intro header mem
          cases value with
          | none => cases mem
          | some value =>
              cases mem
              exact ⟨value, rfl, rfl⟩
      | false =>
          refine ⟨⟨m.issued, rfl⟩, ?_⟩
          rw [Issued, if_pos held]
          exact fun header mem => absurd mem (Option.not_mem_none header)
  | false =>
      rw [if_neg Bool.false_ne_true]
      have own : Issued config inbound m = fun credential => ∀ header ∈ credential, ∃ bare original,
          presentedCredential inbound.headers = .one bare original header.1 ∧
            header.2 = .text original := by
        funext credential
        rw [Issued, if_neg (by simp [held])]
      cases presented with
      | one bare original header =>
          refine ⟨⟨m.issued, rfl⟩, ?_⟩
          rw [own]
          intro header mem
          cases mem
          exact ⟨bare, original, mine.symm, rfl⟩
      | absent =>
          refine ⟨⟨m.issued, rfl⟩, ?_⟩
          rw [own]
          exact fun header mem => absurd mem (Option.not_mem_none header)
      | ambiguous =>
          refine ⟨⟨m.issued, rfl⟩, ?_⟩
          rw [own]
          exact fun header mem => absurd mem (Option.not_mem_none header)

theorem sends_of_built (read : readBody config.maxRequestBytes [] inbound.frames = .ok body)
    {route : Route} {credential : Option (String × HeaderValue)}
    (issued : Issued config inbound m credential) {request : UpstreamRequest}
    (built : buildUpstreamRequest config route inbound body credential = some request) :
    Sends config inbound m request ∧ request.path = route.upstreamPath := by
  rw [buildUpstreamRequest] at built
  split at built
  · cases built
    exact ⟨⟨rfl, read, credential, issued, rfl⟩, rfl⟩
  · cases built

/-- A message may be sent first. -/
structure MayStart (config : GatewayConfig) (inbound : Inbound) (m : Progress) : Prop where
  task : m.task.isOpen = true
  cost : ∃ req, m.reserved = some req ∧ Reserves config inbound m req
  shared : m.enforced = true → m.waived = true ∨ m.shared.isOpen = true
  sends : m.sends = 0
  billed : m.billed = none

/-- What is held is as it was, and the request is billed if the provider accepted it. -/
structure Sent (m m' : Progress) (answered : Option UpstreamResponse) : Prop where
  task : m'.task = m.task
  shared : m'.shared = m.shared
  recorded : m'.recorded = m.recorded
  context : m'.context = m.context
  billed : m'.billed = answered.filter fun response => statusIsSuccess response.status

/-- What the reserved amount is says nothing of the sending. -/
theorem cost_of (cost : ∃ req, m.reserved = some req ∧ Reserves config inbound m req) {m' : Progress}
    (same : m'.reserved = m.reserved ∧ m'.context = m.context) :
    ∃ req, m'.reserved = some req ∧ Reserves config inbound m' req := by
  obtain ⟨req, reserved, key, session, amount⟩ := cost
  refine ⟨req, same.1.trans reserved, key, session, ?_⟩
  rwa [same.2]

theorem obeys_send (mine : presented = presentedCredential inbound.headers)
    (read : readBody config.maxRequestBytes [] inbound.frames = .ok body) (ready : MayStart config inbound m) :
    Obeys (monitor config inbound) (Sent m) m
      (sendWithCredentialRetry config presented .messages inbound body) := by
  unfold sendWithCredentialRetry
  refine (obeys_credential mine).bind ?_
  rintro _ credential ⟨⟨issued, rfl⟩, given⟩
  cases built : buildUpstreamRequest config .messages inbound body credential with
  | none => exact ⟨rfl, rfl, rfl, rfl, ready.billed⟩
  | some request =>
  obtain ⟨whole, path⟩ := sends_of_built read given built
  refine Obeys.ask_bind ⟨whole, .inr ⟨path, ready.task, cost_of ready.cost (by exact ⟨rfl, rfl⟩),
    ready.shared, .inl ready.sends, ready.billed⟩⟩ ?_
  intro answered
  have first : ((monitor config inbound).next { m with issued := issued } (.send request) answered).billed =
      answered.filter fun response => statusIsSuccess response.status := by
    simp [monitor, Progress.next, ready.billed, path]
  cases answered with
  | none => exact ⟨rfl, rfl, rfl, rfl, first⟩
  | some response =>
  dsimp only
  by_cases fine : response.status ≠ 401
  · rw [if_pos fine]
    exact ⟨rfl, rfl, rfl, rfl, first⟩
  rw [if_neg fine]
  have status : response.status = 401 := not_not.mp fine
  by_cases none_ : (!config.hasCredentials) = true
  · rw [if_pos none_]
    exact ⟨rfl, rfl, rfl, rfl, first⟩
  rw [if_neg none_]
  refine Obeys.ask_bind (by simp [monitor, Progress.allows, Progress.next, status]) ?_
  intro refreshed
  cases refreshed with
  | false => exact ⟨rfl, rfl, rfl, rfl, first⟩
  | true =>
  refine (obeys_credential mine).bind ?_
  rintro _ credential' ⟨⟨issued', rfl⟩, given'⟩
  have refused : (some response).filter (fun response => statusIsSuccess response.status) = none := by
    simp [status, statusIsSuccess]
  have unbilled := first.trans refused
  cases built' : buildUpstreamRequest config .messages inbound body credential' with
  | none => exact ⟨rfl, rfl, rfl, rfl, unbilled⟩
  | some retry =>
  obtain ⟨whole', path'⟩ := sends_of_built read given' built'
  refine Obeys.ask_bind ⟨whole', .inr ⟨path', ready.task, cost_of ready.cost (by exact ⟨rfl, rfl⟩),
    ready.shared, .inr ⟨?_, ?_, rfl⟩, unbilled⟩⟩ ?_
  · simp [monitor, Progress.next, ready.sends]
  · simp [monitor, Progress.next, status]
  intro retried
  have second (m : Progress) (none_ : m.billed = none) :
      ((monitor config inbound).next m (.send retry) retried).billed =
        retried.filter fun response => statusIsSuccess response.status := by
    simp [monitor, Progress.next, none_, path']
  cases retried with
  | none => exact ⟨rfl, rfl, rfl, rfl, (second _ unbilled).trans refused.symm⟩
  | some retried => exact ⟨rfl, rfl, rfl, rfl, second _ unbilled⟩

/-! ## Closing -/

/-- The loop leaves the request as it is, and ends as the relay does. -/
theorem obeys_relayLoop {ctx : SettleContext} (billed : m.billed.isSome = true)
    (open_ : ∀ hold, ctx.shared = some hold → m.shared = .open_ hold) (events : List RelayEvent)
    (r : Relay) : Obeys (monitor config inbound)
      (fun m' out => m' = m ∧ out = Relay.pump config.frame ctx.isSse r events) m
      (relayLoop config ctx r events) := by
  induction events generalizing r with
  | nil => exact ⟨rfl, rfl⟩
  | cons event rest ih =>
      cases event with
      | failed => exact ⟨rfl, rfl⟩
      | renewal =>
          rw [relayLoop]
          cases shared : ctx.shared with
          | none => exact ih r
          | some hold => exact ⟨⟨billed, hold, open_ hold shared, rfl⟩, fun _ => ih r⟩
      | frame data taken =>
          cases taken with
          | true => exact ih _
          | false => exact ⟨rfl, rfl⟩

theorem obeys_pump {ctx : SettleContext} {response : UpstreamResponse} {context : BudgetContext}
    (read : readBody config.maxRequestBytes [] inbound.frames = .ok body)
    (holding : Holding inbound ctx.reservationId ctx.shared m ctx.record)
    (billed : m.billed = some response) (asked : m.context = some context)
    (kind : ctx.resourceKind = context.resourceKind)
    (model : (parseMessagesEnvelope (config.json body)).model = some ctx.model)
    (sse : ctx.isSse = isEventStream response (parseMessagesEnvelope (config.json body)).stream) :
    Obeys (monitor config inbound) (fun m' _ => m'.task = .closed ctx.reservationId ∧
      m'.shared.isOpen = false ∧ m'.recorded = true) m (pumpAndSettle config ctx response.events) := by
  unfold pumpAndSettle
  have relayed : ∀ hold, ctx.shared = some hold → m.shared = .open_ hold := by
    intro hold some_
    rw [holding.shared, some_]
    rfl
  refine (obeys_relayLoop (by rw [billed]; rfl) relayed response.events .new).bind ?_
  rintro m' ⟨relay, ended⟩ ⟨same, out⟩
  obtain rfl : m = m' := same.symm
  have facts : Learns config inbound m
      (Relay.settledFacts ctx.isSse (relay.read config.frame ctx.isSse) ended) := by
    refine ⟨response, billed, body, read, ?_⟩
    rw [← sse, pumpFacts, ← out]
  have declares : Declares config inbound ctx.model := ⟨body, read, model⟩
  dsimp only
  cases shared : ctx.shared with
  | none =>
      have none_ : m.shared = .unasked := by rw [holding.shared, shared]; rfl
      refine ⟨⟨holding.task, _, context, ctx.model, facts, declares, asked, by rw [kind]; rfl⟩, fun _ => ?_⟩
      have closed : m.task.close = .closed ctx.reservationId := by rw [holding.task]; rfl
      refine ⟨⟨holding.recorded, ?_, ?_, holding.row, ?_⟩, fun _ => ⟨closed, ?_, rfl⟩⟩
      · change m.task.close.isOpen = false
        rw [closed]
        rfl
      · change m.shared.isOpen = false
        rw [none_]
        rfl
      · change ctx.record.reservationId = m.task.close.hold?
        rw [closed, holding.reservation]
        rfl
      · change m.shared.isOpen = false
        rw [none_]
        rfl
  | some hold =>
      have open_ := relayed hold shared
      refine ⟨⟨open_, _, facts, rfl⟩, fun _ => ?_⟩
      refine ⟨⟨holding.task, _, context, ctx.model, facts, declares, asked, by rw [kind]; rfl⟩, fun _ => ?_⟩
      have closed : m.task.close = .closed ctx.reservationId := by rw [holding.task]; rfl
      have given : m.shared.close.isOpen = false := by rw [open_]; rfl
      refine ⟨⟨holding.recorded, ?_, given, holding.row, ?_⟩, fun _ => ⟨closed, given, rfl⟩⟩
      · change m.task.close.isOpen = false
        rw [closed]
        rfl
      · change ctx.record.reservationId = m.task.close.hold?
        rw [closed, holding.reservation]
        rfl

theorem obeys_releaseAll (holding : Holding inbound id hold m record) (unbilled : m.billed = none) :
    Obeys (monitor config inbound) (fun m' _ => m'.task = .closed id ∧ m'.shared.isOpen = false ∧
      m'.recorded = false) m (releaseAll id hold) := by
  unfold releaseAll
  have closed : m.task.close = .closed id := by rw [holding.task]; rfl
  refine Obeys.ask_bind ⟨unbilled, holding.task⟩ fun _ => ?_
  cases hold with
  | none =>
      refine ⟨closed, ?_, holding.recorded⟩
      change m.shared.isOpen = false
      rw [holding.shared]
      rfl
  | some hold =>
      have open_ : m.shared = .open_ hold := holding.shared
      refine ⟨⟨unbilled, ⟨id, closed⟩, hold, open_, rfl⟩, fun _ => ⟨closed, ?_, holding.recorded⟩⟩
      change m.shared.close.isOpen = false
      rw [open_]
      rfl

/-! ## A metered request -/

section Metered

variable {r : Metered} {context : BudgetContext} {enforced : Bool}

/-- The request is the inbound one, with its whole body. -/
structure ReadsInbound (config : GatewayConfig) (inbound : Inbound) (r : Metered) : Prop where
  own : r.inbound = inbound
  body : readBody config.maxRequestBytes [] inbound.frames = .ok r.body
  presented : r.presented = presentedCredential inbound.headers
  model : (parseMessagesEnvelope (config.json r.body)).model = some r.model
  session : inbound.session config = some r.sessionId

theorem ReadsInbound.sharedReserves (reading : ReadsInbound config inbound r) :
    SharedReserves config inbound (r.sharedRequest config) where
  own := congrArg Inbound.id reading.own
  session := reading.session
  ttl := rfl
  body := ⟨r.body, reading.body, reading.model, rfl, rfl, rfl, rfl⟩

theorem obeys_answered (reading : ReadsInbound config inbound r)
    (holding : Holding inbound id hold m record) (asked : m.context = some context)
    {upstream : Option UpstreamResponse}
    (billed : m.billed = upstream.filter fun response => statusIsSuccess response.status) :
    Obeys (monitor config inbound) (RunEnds inbound) m
      (Metered.answered config r context id hold record upstream) := by
  have ends (m' : Progress) (record' : GatewayRequestRecord) (response : GatewayResponse) (owned : Bool)
      (row : record'.id = record.id) (reservation : record'.reservationId = record.reservationId)
      (closed : m'.task = .closed id ∧ m'.shared.isOpen = false ∧ m'.recorded = owned) :
      RunEnds inbound m' ⟨response, record', owned⟩ := by
    refine ⟨by rw [closed.1]; rfl, closed.2.1, closed.2.2, row.trans holding.row, ?_⟩
    rw [reservation, holding.reservation, closed.1]
    rfl
  unfold Metered.answered
  cases upstream with
  | none =>
      refine (obeys_releaseAll holding billed).bind fun m' _ closed => ?_
      exact ends m' { record with decision := .upstreamUnavailable, terminalState := .upstreamUnavailable }
        _ _ rfl rfl closed
  | some response =>
      dsimp only
      by_cases success : statusIsSuccess response.status = true
      · rw [if_neg (by simp [success])]
        have billed' : m.billed = some response := by rw [billed]; simp [success]
        refine (@obeys_pump config inbound m r.body
          { reservationId := id
            resourceKind := context.resourceKind
            model := r.model
            maxTokens := (r.envelope config).maxTokens.getD 0
            record := { record with
              upstreamStatus := some response.status, terminalState := .completedCleanly }
            isSse := isEventStream response (r.envelope config).stream
            shared := hold } response context reading.body
          ⟨holding.task, holding.shared, holding.recorded, holding.row, holding.reservation⟩
          billed' asked rfl reading.model rfl).bind fun m' _ closed => ?_
        exact ends m' { record with
          upstreamStatus := some response.status, terminalState := .completedCleanly } _ _ rfl rfl closed
      · rw [if_pos (by simp [success])]
        have unbilled : m.billed = none := by rw [billed]; simp [success]
        refine (@obeys_releaseAll config inbound m { record with upstreamStatus := some response.status }
          id hold ⟨holding.task, holding.shared, holding.recorded, holding.row, holding.reservation⟩
          unbilled).bind fun m' _ closed => ?_
        exact ends m' { record with
          upstreamStatus := some response.status, terminalState := .upstreamRejected } _ _ rfl rfl closed

theorem obeys_forward (reading : ReadsInbound config inbound r)
    (holding : Holding inbound id hold m record) (asked : m.context = some context) (ready : MayStart config inbound m) :
    Obeys (monitor config inbound) (RunEnds inbound) m (Metered.forward config r context id hold record) := by
  unfold Metered.forward
  rw [reading.own]
  refine (obeys_send reading.presented reading.body ready).bind fun m' upstream sent => ?_
  refine obeys_answered reading ?_ (sent.context.trans asked) sent.billed
  exact ⟨sent.task.trans holding.task, sent.shared.trans holding.shared,
    sent.recorded.trans holding.recorded, holding.row, holding.reservation⟩

theorem obeys_reserved (reading : ReadsInbound config inbound r)
    (holding : Holding inbound id none m record) (asked : m.context = some context)
    (cost : ∃ req, m.reserved = some req ∧ Reserves config inbound m req)
    (mode : m.enforced = enforced) (sends : m.sends = 0) (unbilled : m.billed = none) :
    Obeys (monitor config inbound) (RunEnds inbound) m
      (Metered.reserved config r enforced context id record) := by
  have task : m.task.isOpen = true := by rw [holding.task]; rfl
  unfold Metered.reserved
  cases enforced with
  | false =>
      refine obeys_forward reading holding asked ⟨task, cost, ?_, sends, unbilled⟩
      intro enforced
      rw [mode] at enforced
      cases enforced
  | true =>
      refine Obeys.ask_bind ⟨mode, task, holding.shared, reading.sharedReserves⟩ ?_
      intro decision
      have refuse (refused : GatewayDecision) (detail : Option DecisionDetail) (reason : String) :
          Obeys (monitor config inbound) (RunEnds inbound) m (do
            releaseAll id none
            reject { record with decisionDetail := detail.or record.decisionDetail } 403 refused reason) := by
        refine (obeys_releaseAll holding unbilled).bind fun m' _ closed => ?_
        refine ⟨by rw [closed.1]; rfl, closed.2.1, closed.2.2, holding.row, ?_⟩
        rw [closed.1]
        exact holding.reservation
      match decision with
      | none => exact refuse _ none _
      | some .notConsulted =>
          exact obeys_forward reading ⟨holding.task, holding.shared, holding.recorded, holding.row,
            holding.reservation⟩ asked ⟨task, cost_of cost (by exact ⟨rfl, rfl⟩), fun _ => .inl rfl, sends,
              unbilled⟩
      | some (.granted hold) =>
          exact obeys_forward reading ⟨holding.task, rfl, holding.recorded, holding.row,
            holding.reservation⟩ asked ⟨task, cost_of cost (by exact ⟨rfl, rfl⟩), fun _ => .inr rfl, sends,
              unbilled⟩
      | some (.denied (.capExhausted _)) => exact refuse _ none _
      | some (.denied .unattributable) => exact refuse _ none _
      | some (.denied (.unenforceable gap)) => exact refuse _ (some (.gap gap)) _
      | some (.denied .unavailable) => exact refuse _ none _

theorem obeys_costed (reading : ReadsInbound config inbound r) (before : Before inbound m record)
    (asked : m.context = some context) (mode : m.enforced = enforced) :
    Obeys (monitor config inbound) (RunEnds inbound) m
      (Metered.costed config r enforced context record) := by
  unfold Metered.costed
  cases costs : r.worstCase config context.resourceKind with
  | error gap => exact obeys_reject before (by exact ⟨rfl, rfl⟩) _ _ _
  | ok amount =>
      have key : "gw:" ++ r.inbound.id = "gw:" ++ inbound.id := by rw [reading.own]
      have reserves : Reserves config inbound m (r.spendRequest config context amount) :=
        ⟨key, reading.session, context, r.body, r.model, asked, rfl, reading.body, reading.model, costs⟩
      refine Obeys.ask_bind ⟨before.task, before.recorded, reserves⟩ ?_
      intro decision
      match decision with
      | none => exact obeys_reject before (by exact ⟨rfl, rfl⟩) _ _ _
      | some (.denied denial) => exact obeys_reject before (by exact ⟨rfl, rfl⟩) _ _ _
      | some (.granted id _ approvalRequired) =>
          have holding (record' : GatewayRequestRecord) (row : record'.id = record.id)
              (reservation : record'.reservationId = some id) :
              Holding inbound id none
                { m with task := .open_ id, reserved := some (r.spendRequest config context amount) }
                record' :=
            ⟨rfl, before.shared, before.recorded, row.trans before.row, reservation⟩
          refine obeys_reserved reading (holding _ ?_ ?_) asked ⟨_, rfl, reserves.key, reserves.session, reserves.amount⟩
            mode before.sends before.billed
          · cases approvalRequired <;> rfl
          · cases approvalRequired <;> rfl

theorem obeys_bounded (reading : ReadsInbound config inbound r) (before : Before inbound m record)
    (mode : m.enforced = enforced) :
    Obeys (monitor config inbound) (RunEnds inbound) m (Metered.bounded config r enforced record) := by
  unfold Metered.bounded
  cases (if enforced = true then screenUnboundedInputs (config.json r.body) else none) with
  | some what => exact obeys_reject before (by exact ⟨rfl, rfl⟩) _ _ _
  | none =>
      refine Obeys.ask_bind ⟨before.task, reading.session⟩ fun answered => ?_
      have after : Before inbound { m with context := answered.join } record :=
        ⟨before.task, before.shared, before.sends, before.billed, before.recorded, before.row,
          before.reservation⟩
      match answered with
      | none => exact obeys_reject after (by exact ⟨rfl, rfl⟩) _ _ _
      | some none => exact obeys_reject after (by exact ⟨rfl, rfl⟩) _ _ _
      | some (some context) => exact obeys_costed reading (after.of_record rfl rfl) rfl mode

theorem obeys_start (reading : ReadsInbound config inbound r) (before : Before inbound m record)
    (mode : m.enforced = false) :
    Obeys (monitor config inbound) (RunEnds inbound) m (Metered.start config r record) := by
  unfold Metered.start
  cases config.hasShared with
  | false => exact obeys_bounded reading before mode
  | true =>
      refine Obeys.ask_bind ⟨before.task, mode⟩ fun answered => ?_
      have after : Before inbound { m with enforced := decide (answered = some .enforce) } record :=
        ⟨before.task, before.shared, before.sends, before.billed, before.recorded, before.row,
          before.reservation⟩
      match answered with
      | none => exact obeys_reject after (by exact ⟨rfl, rfl⟩) _ _ _
      | some .notConsulted => exact obeys_bounded reading after rfl
      | some .enforce => exact obeys_bounded reading after rfl
      | some .unavailable => exact obeys_reject after (by exact ⟨rfl, rfl⟩) _ _ _

end Metered

/-! ## Any request -/

theorem obeys_metered (read : readBody config.maxRequestBytes [] inbound.frames = .ok body)
    (mine : presented = presentedCredential inbound.headers) (before : Before inbound m record)
    (mode : m.enforced = false) :
    Obeys (monitor config inbound) (RunEnds inbound) m
      (handleMeteredRequest config inbound presented body record) := by
  unfold handleMeteredRequest
  dsimp only
  cases model : (parseMessagesEnvelope (config.json body)).model with
  | none => exact obeys_reject before (by exact ⟨rfl, rfl⟩) _ _ _
  | some model =>
      dsimp only
      cases session : ((inbound.headers.get config.sessionHeader).bind HeaderValue.toStr).filter
          fun s => decide (s ≠ "") with
      | none => exact obeys_reject before (by exact ⟨rfl, rfl⟩) _ _ _
      | some sessionId =>
          exact obeys_start ⟨rfl, read, mine, model, session⟩ (before.of_record rfl rfl) mode

theorem obeys_unmetered (read : readBody config.maxRequestBytes [] inbound.frames = .ok body)
    (before : Before inbound m record) :
    Obeys (monitor config inbound) (RunEnds inbound) m
      (forwardUnmetered config inbound .countTokens body record) := by
  unfold forwardUnmetered
  refine (obeys_credential rfl).bind ?_
  rintro _ credential ⟨⟨issued, rfl⟩, given⟩
  have after (x : Option String) : Before inbound { m with issued := x } record :=
    ⟨before.task, before.shared, before.sends, before.billed, before.recorded, before.row,
      before.reservation⟩
  cases built : buildUpstreamRequest config .countTokens inbound body credential with
  | none => exact obeys_reject (after issued) (by exact ⟨rfl, rfl⟩) _ _ _
  | some request =>
      obtain ⟨whole, path⟩ := sends_of_built read given built
      refine Obeys.ask_bind ⟨whole, .inl ⟨path, before.task, before.sends⟩⟩ fun answered => ?_
      have ends (m' : Progress) (record' : GatewayRequestRecord) (response : GatewayResponse)
          (task : m'.task = m.task) (shared : m'.shared = m.shared) (recorded : m'.recorded = m.recorded)
          (row : record'.id = record.id) (reservation : record'.reservationId = record.reservationId) :
          RunEnds inbound m' ⟨response, record', false⟩ := by
        refine ⟨by rw [task, before.task]; rfl, by rw [shared, before.shared]; rfl,
          recorded.trans before.recorded, row.trans before.row, ?_⟩
        rw [reservation, before.reservation, task, before.task]
        rfl
      cases answered with
      | none =>
          exact ends _ { record with terminalState := .upstreamUnavailable } _ rfl rfl rfl rfl rfl
      | some response =>
          refine ends _ (if statusIsSuccess response.status then _ else _) _ rfl rfl rfl ?_ ?_
          · split <;> rfl
          · split <;> rfl

theorem obeys_route (mine : presented = presentedCredential inbound.headers) {route : Route}
    (forwarded : route.isAnsweredLocally = false) (before : Before inbound m record)
    (mode : m.enforced = false) :
    Obeys (monitor config inbound) (RunEnds inbound) m
      (runRoute config inbound presented route record) := by
  unfold runRoute
  cases read : readBody config.maxRequestBytes [] inbound.frames with
  | error e => cases e <;> exact obeys_reject before (by exact ⟨rfl, rfl⟩) _ _ _
  | ok body =>
      dsimp only
      split
      · exact obeys_reject before (by exact ⟨rfl, rfl⟩) _ _ _
      · cases route with
        | messages => exact obeys_metered read mine before mode
        | countTokens => exact obeys_unmetered read (before.of_record rfl rfl)
        | hello => cases forwarded

theorem obeys_run (before : Before inbound m record) (mode : m.enforced = false) :
    Obeys (monitor config inbound) (RunEnds inbound) m (runRequest config inbound record) := by
  unfold runRequest
  dsimp only
  split
  · exact obeys_reject before (by exact ⟨rfl, rfl⟩) _ _ _
  split
  · exact obeys_reject before (by exact ⟨rfl, rfl⟩) _ _ _
  split
  · exact obeys_reject before (by exact ⟨rfl, rfl⟩) _ _ _
  split
  · exact obeys_reject before (by exact ⟨rfl, rfl⟩) _ _ _
  · split
    · refine Before.ends (before.of_record ?_ ?_) _
      · rfl
      · rfl
    · rename_i away
      exact obeys_route rfl (by simpa using away) (before.of_record rfl rfl) mode

theorem Before.start (inbound : Inbound) : Before inbound {} { id := inbound.id } :=
  ⟨rfl, rfl, rfl, rfl, rfl, rfl, rfl⟩

end Obeying

/-- Whatever the authorities, the credential store and the provider answer, a request makes each call
only when its monitor allows it: the provider sees the inbound body only while what it may cost is
reserved, and twice at most; what was reserved is closed once, released if the provider did not bill the
request and else settled with what its relay has read; and when the request is done nothing is held and
one record is written, with the reservation it names. -/
theorem request_obeys (config : GatewayConfig) (inbound : Inbound) :
    Obeys (monitor config inbound) (fun m _ => Finished m) {} (handleRequest config inbound) := by
  unfold handleRequest
  refine (obeys_run (Before.start inbound) rfl).bind fun m served ends => ?_
  cases owned : served.pumpOwnsRecord with
  | true => exact ⟨ends.task, ends.shared, ends.recorded.trans owned⟩
  | false =>
      refine ⟨⟨ends.recorded.trans owned, ends.task, ends.shared, ends.row, ends.reservation⟩, fun _ => ?_⟩
      exact ⟨ends.task, ends.shared, rfl⟩

end LibraGovernor
