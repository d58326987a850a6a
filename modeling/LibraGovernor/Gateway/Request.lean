/-
# LibraGovernor.Gateway.Request -- one request through the gateway

The gateway's handler as a program of calls: to the task ledger's authority, to the shared budget's,
to the credential store, to the provider and to the recorder.  A metered request is costed, reserved
in the task budget and then in the shared one, sent, at most once more after a fresh credential, and
closed: released when the provider did not bill it, settled when its relayed response has ended.

The relay runs beside the response it feeds; its calls follow those of the handler, so that it is the
end of the same program.  What parsing JSON gives, and whether a URI is well formed, are parameters.
-/
import LibraGovernor.Domain.SharedPool
import LibraGovernor.Gateway.UsageTap
import LibraGovernor.Lib.Calls

namespace LibraGovernor

open Calls

set_option autoImplicit false

/-! ## Headers and credentials -/

/-- A header's value; `raw` holds bytes that are not visible text. -/
inductive HeaderValue where
  | text (s : String)
  | raw (bytes : Bytes)
  deriving DecidableEq, Repr

def HeaderValue.toStr : HeaderValue → Option String
  | .text s => some s
  | .raw _ => none

/-- Headers by their lower-case names, in order. -/
abbrev Headers := List (String × HeaderValue)

/-- The first value of a header. -/
def Headers.get (headers : Headers) (name : String) : Option HeaderValue :=
  (headers.find? fun header => header.1 = name).map Prod.snd

def strippedRequestHeaders : List String :=
  ["host", "authorization", "x-api-key", "connection", "keep-alive", "proxy-authenticate",
    "proxy-authorization", "te", "trailer", "transfer-encoding", "upgrade", "content-length", "forwarded",
    "x-forwarded-for", "x-forwarded-host", "x-forwarded-proto", "x-forwarded-port", "x-real-ip"]

/-- `original` is the header's value as it arrived, `bare` the credential in it. -/
inductive PresentedCredential where
  | absent
  | one (bare original header : String)
  | ambiguous
  deriving DecidableEq, Repr

def trimmed (s : String) : String :=
  String.ofList ((s.toList.dropWhile Char.isWhitespace).rdropWhile Char.isWhitespace)

def bearerPrefix : List Char := "Bearer ".toList

def withoutBearer (s : String) : String :=
  if bearerPrefix.isPrefixOf s.toList then String.ofList (s.toList.drop bearerPrefix.length) else s

def presentedCredential (headers : Headers) : PresentedCredential :=
  let bearer := ((headers.get "authorization").bind HeaderValue.toStr).map
    fun v => (trimmed (withoutBearer v), v)
  let apiKey := ((headers.get "x-api-key").bind HeaderValue.toStr).map fun v => (trimmed v, v)
  match bearer, apiKey with
  | some (bare, original), some (other, _) =>
      if bare ≠ other then .ambiguous else .one bare original "authorization"
  | some (bare, original), none => .one bare original "authorization"
  | none, some (bare, original) => .one bare original "x-api-key"
  | none, none => .absent

/-! ## Routes -/

inductive Route where
  | messages
  | countTokens
  | hello
  deriving DecidableEq, Repr

namespace Route

def upstreamPath : Route → String
  | .messages => "/v1/messages"
  | .countTokens => "/v1/messages/count_tokens"
  | .hello => "/api/hello"

def isMetered (route : Route) : Bool := decide (route = .messages)

def isAnsweredLocally (route : Route) : Bool := decide (route = .hello)

end Route

def matchRoute (method path : String) : Option Route :=
  if method = "POST" ∧ path = "/v1/messages" then some .messages
  else if method = "POST" ∧ path = "/v1/messages/count_tokens" then some .countTokens
  else if (method = "GET" ∨ method = "HEAD") ∧ path = "/api/hello" then some .hello
  else none

/-! ## What the body declares -/

structure MessagesEnvelope where
  model : Option String
  maxTokens : Option Nat
  stream : Bool
  deriving DecidableEq, Repr

def parseMessagesEnvelope : Option Json → MessagesEnvelope
  | none => ⟨none, none, false⟩
  | some value =>
      { model := (value.get "model").bind Json.asStr
        maxTokens := (value.get "max_tokens").bind Json.asU64
        stream :=
          match value.get "stream" with
          | some (.bool b) => b
          | _ => false }

/-- Anything but standard speed. -/
def requestsFastSpeed (body : Option Json) : Bool :=
  match body.bind (Json.get "speed") with
  | none => false
  | some .null => false
  | some speed => decide (speed.asStr ≠ some "standard")

mutual

def imageBlocks : Json → Nat
  | .object fields =>
      (if (Json.object fields).get "type" = some (.string "image") then 1 else 0) + imageBlocksFields fields
  | .array items => imageBlocksItems items
  | _ => 0

def imageBlocksItems : List Json → Nat
  | [] => 0
  | item :: rest => imageBlocks item + imageBlocksItems rest

def imageBlocksFields : List (String × Json) → Nat
  | [] => 0
  | (_, value) :: rest => imageBlocks value + imageBlocksFields rest

end

def imageBlockCount (body : Option Json) : Nat := (body.map imageBlocks).getD 0

def typeIs (value : Json) (word : String) : Bool :=
  decide ((value.get "type").bind Json.asStr = some word)

def isBase64Pdf (source : Json) : Bool :=
  typeIs source "base64" && decide ((source.get "media_type").bind Json.asStr = some "application/pdf")

mutual

def hasUnboundedSource : Json → Bool
  | .object fields => typeIs (.object fields) "container_upload" || unboundedFields fields
  | .array items => unboundedItems items
  | _ => false

def unboundedItems : List Json → Bool
  | [] => false
  | item :: rest => hasUnboundedSource item || unboundedItems rest

def unboundedFields : List (String × Json) → Bool
  | [] => false
  | (key, child) :: rest =>
      (decide (key = "source") && ((child.get "type").bind Json.asStr).isSome &&
          (typeIs child "url" || typeIs child "file" || isBase64Pdf child)) ||
        hasUnboundedSource child || unboundedFields rest

end

def isServerTool (tool : Json) : Bool :=
  match (tool.get "type").bind Json.asStr with
  | none => false
  | some kind =>
      ["web_search_", "web_fetch_", "code_execution_"].any fun word => word.toList.isPrefixOf kind.toList

/-- What keeps the input of a body from being bounded. -/
def screenUnboundedInputs : Option Json → Option String
  | none => none
  | some value =>
      let tools := match value.get "tools" with
        | some (.array tools) => tools.any isServerTool
        | _ => false
      let servers := match value.get "mcp_servers" with
        | some (.array servers) => !servers.isEmpty
        | _ => false
      let container := match value.get "container" with
        | none => false
        | some .null => false
        | some _ => true
      if tools then some "a server tool"
      else if servers then some "an MCP server"
      else if container then some "a container"
      else if hasUnboundedSource value then some "a url, file or base64 PDF content source"
      else none

def inputTokenUpperBound (bodyBytes : Nat) : Nat := min ((bodyBytes + 2) / 3) u64Max

def worstCaseReservation (kind : ResourceKind) (bodyBytes : Nat) (maxTokens : Option Nat)
    (model : String) (fastRequested : Bool) (pricing : PricingTable) : Except EnforcementGap ResourceAmount :=
  match maxTokens.filter fun m => decide (0 < m) with
  | none => .error .unboundedRequest
  | some maxTokens =>
      let inputUpper := inputTokenUpperBound bodyBytes
      match kind with
      | .tokens => .ok ⟨.tokens, (min (inputUpper + maxTokens) u64Max : Nat)⟩
      | .usd => worstCaseUsdReservation inputUpper (some maxTokens) model fastRequested pricing
      | .quotaPercent => .error (.unsupportedResourceKind .quotaPercent)

/-! ## Decisions, records and responses -/

inductive GatewayDecision where
  | allowed
  | budgetExceeded
  | taskUnbound
  | unpricedModel
  | noBudget
  | unenforceableRequest
  | ambiguousCredential
  | unauthorized
  | hostMismatch
  | routeNotFound
  | payloadTooLarge
  | overloaded
  | upstreamUnavailable
  | sharedBudgetExceeded
  | sharedBudgetUnavailable
  | sharedBudgetUnattributable
  deriving DecidableEq, Repr

inductive TerminalState where
  | rejectedBeforeUpstream
  | answeredLocally
  | forwardedUnmetered
  | upstreamUnavailable
  | upstreamRejected
  | completedCleanly
  | clientDisconnected
  | streamAborted
  deriving DecidableEq, Repr

def RelayEnd.terminal : RelayEnd → TerminalState
  | .completedCleanly => .completedCleanly
  | .clientDisconnected => .clientDisconnected
  | .streamAborted => .streamAborted

/-! ## The authorities -/

structure BudgetContext where
  taskId : TaskId
  resourceKind : ResourceKind
  deriving DecidableEq, Repr

structure SpendRequest where
  taskId : TaskId
  sessionId : String
  amount : ResourceAmount
  idempotencyKey : String
  ttlSecs : Nat
  deriving DecidableEq, Repr

inductive SpendDenial where
  | policyDenied (detail : String)
  | insufficient (available : Headroom) (requested : ResourceAmount) (protectedReserve : ResourceAmount)
  | noBudget
  deriving DecidableEq, Repr

inductive SpendDecision where
  | granted (reservationId : ReservationId) (reserved : ResourceAmount) (approvalRequired : Bool)
  | denied (denial : SpendDenial)
  deriving DecidableEq, Repr

inductive SharedMode where
  | notConsulted
  | enforce
  | unavailable
  deriving DecidableEq, Repr

structure SharedReserveRequest where
  sessionId : String
  model : String
  bodyBytes : Nat
  maxTokens : Option Nat
  imageCount : Nat
  fastRequested : Bool
  requestId : String
  ttlSecs : Nat
  deriving DecidableEq, Repr

structure SharedHold where
  id : SharedPoolReservationId
  reservedUsdCents : Nat
  inputBoundTokens : Nat
  model : String
  maxTokens : Nat
  deriving DecidableEq, Repr

inductive SharedDenial where
  | capExhausted (remainingUsdCents : Int)
  | unavailable
  | unattributable
  | unenforceable (gap : EnforcementGap)
  deriving DecidableEq, Repr

inductive SharedDecision where
  | notConsulted
  | granted (hold : SharedHold)
  | denied (denial : SharedDenial)
  deriving DecidableEq, Repr

structure SharedSettlement where
  hold : SharedHold
  facts : TapFacts
  deriving DecidableEq, Repr

/-- The detail a refusal is recorded with. -/
inductive DecisionDetail where
  | gap (gap : EnforcementGap)
  | unboundedInput (what : String)
  | denial (denial : SpendDenial)
  | approvalRequired
  deriving DecidableEq, Repr

structure GatewayRequestRecord where
  id : String
  taskId : Option TaskId := none
  sessionId : Option String := none
  route : Option String := none
  model : Option String := none
  decision : GatewayDecision := .allowed
  decisionDetail : Option DecisionDetail := none
  reservationId : Option ReservationId := none
  reservedAmount : Option ResourceAmount := none
  settledAmount : Option ResourceAmount := none
  resourceKind : Option ResourceKind := none
  usageKnown : Bool := false
  inputTokens : Option Nat := none
  cacheCreationInputTokens : Option Nat := none
  cacheReadInputTokens : Option Nat := none
  outputTokens : Option Nat := none
  maxTokens : Option Nat := none
  boundViolated : Bool := false
  upstreamStatus : Option Nat := none
  terminalState : TerminalState := .rejectedBeforeUpstream
  deriving DecidableEq, Repr

inductive ResponseBody where
  | empty
  | refusal (reason : String)
  | relayed
  deriving DecidableEq, Repr

/-- `decision` is the `x-libra-decision` header. -/
structure GatewayResponse where
  status : Nat
  decision : Option GatewayDecision
  body : ResponseBody
  deriving DecidableEq, Repr

/-! ## Calls -/

structure UpstreamRequest where
  method : String
  origin : String
  path : String
  query : Option String
  headers : Headers
  body : Bytes
  deriving DecidableEq, Repr

/-- `events` is what the relay of the body then waits for. -/
structure UpstreamResponse where
  status : Nat
  headers : Headers
  events : List RelayEvent
  deriving DecidableEq, Repr

inductive GatewayCall where
  | sharedMode
  | budgetContext (sessionId : String)
  | authorize (req : SpendRequest)
  | reserveShared (req : SharedReserveRequest)
  | currentCredential
  | refreshCredential
  | send (request : UpstreamRequest)
  | renewShared (id : SharedPoolReservationId) (ttlSecs : Nat)
  | settleShared (settlement : SharedSettlement)
  | releaseShared (id : SharedPoolReservationId)
  | settleTask (id : ReservationId) (actual : Option ResourceAmount)
  | releaseTask (id : ReservationId)
  | record (row : GatewayRequestRecord)
  deriving DecidableEq, Repr

/-- An authority that fails, or whose task does, answers `none`. -/
abbrev GatewayCall.Answer : GatewayCall → Type
  | .sharedMode => Option SharedMode
  | .budgetContext _ => Option (Option BudgetContext)
  | .authorize _ => Option SpendDecision
  | .reserveShared _ => Option SharedDecision
  | .currentCredential => Option String
  | .refreshCredential => Bool
  | .send _ => Option UpstreamResponse
  | _ => Unit

abbrev GatewayProgram := Program GatewayCall GatewayCall.Answer

namespace GatewayCall

def mode : GatewayProgram (Option SharedMode) := @ask _ Answer .sharedMode

def context (sessionId : String) : GatewayProgram (Option (Option BudgetContext)) :=
  @ask _ Answer (.budgetContext sessionId)

def spend (req : SpendRequest) : GatewayProgram (Option SpendDecision) := @ask _ Answer (.authorize req)

def hold (req : SharedReserveRequest) : GatewayProgram (Option SharedDecision) := @ask _ Answer (.reserveShared req)

def credential : GatewayProgram (Option String) := @ask _ Answer .currentCredential

def refresh : GatewayProgram Bool := @ask _ Answer .refreshCredential

def dispatch (request : UpstreamRequest) : GatewayProgram (Option UpstreamResponse) := @ask _ Answer (.send request)

def tell (c : GatewayCall) : GatewayProgram (Answer c) := ask c

end GatewayCall

/-! ## The handler -/

/-- What a running gateway is configured with. -/
structure GatewayConfig where
  hosts : List String
  governorHeld : Bool
  token : String
  sessionHeader : String
  origin : String
  maxRequestBytes : Nat
  ttlSecs : Nat
  pricing : PricingTable
  hasShared : Bool
  hasCredentials : Bool
  wellFormed : UpstreamRequest → Bool
  json : Bytes → Option Json
  frame : Bytes → Option StreamFrame

/-- A frame of the inbound body: its data unless it is trailers, or a failure. -/
inductive InboundFrame where
  | frame (data : Option Bytes)
  | failed
  deriving DecidableEq, Repr

/-- `permit` says whether a request more is taken. -/
structure Inbound where
  id : String
  method : String
  path : String
  query : Option String
  headers : Headers
  frames : List InboundFrame
  permit : Bool
  deriving DecidableEq, Repr

inductive BodyReadError where
  | tooLarge
  | io
  deriving DecidableEq, Repr

def readBody (cap : Nat) : Bytes → List InboundFrame → Except BodyReadError Bytes
  | read, [] => .ok read
  | _, .failed :: _ => .error .io
  | read, .frame none :: rest => readBody cap read rest
  | read, .frame (some data) :: rest =>
      if cap < read.length + data.length then .error .tooLarge else readBody cap (read ++ data) rest

def acceptsHost (config : GatewayConfig) (host : String) : Bool :=
  config.hosts.any fun accepted => accepted.toList.map Char.toLower = host.toList.map Char.toLower

/-- The local capability token was presented. -/
def holdsToken (config : GatewayConfig) : PresentedCredential → Bool
  | .one bare _ _ => decide (bare = config.token)
  | _ => false

def statusIsSuccess (status : Nat) : Bool := decide (200 ≤ status ∧ status < 300)

/-- A response without a content type is what the request asked for. -/
def isEventStream (response : UpstreamResponse) (stream : Bool) : Bool :=
  match (response.headers.get "content-type").bind HeaderValue.toStr with
  | some kind => "text/event-stream".toList.isPrefixOf kind.toList
  | none => stream

/-- What `run` ends with: the response, the record so far and whether the relay has written it. -/
structure Served where
  response : GatewayResponse
  record : GatewayRequestRecord
  pumpOwnsRecord : Bool
  deriving DecidableEq, Repr

/-- Marks a record as refused before the provider was called. -/
def reject (record : GatewayRequestRecord) (status : Nat) (decision : GatewayDecision) (reason : String) :
    GatewayProgram Served :=
  return {
    response := ⟨status, some decision, .refusal reason⟩
    record := { record with decision := decision, terminalState := .rejectedBeforeUpstream }
    pumpOwnsRecord := false }

section Sending

variable (config : GatewayConfig) (presented : PresentedCredential)

/-- The credential header of an outbound request. -/
def outboundCredential : GatewayProgram (Option (String × HeaderValue)) :=
  if config.governorHeld then
    if config.hasCredentials then do
      let value ← GatewayCall.credential
      return value.map fun v => ("x-api-key", .text v)
    else return none
  else
    match presented with
    | .one _ original header => return some (header, .text original)
    | _ => return none

/-- The path is the route's own, never the inbound one. -/
def buildUpstreamRequest (route : Route) (inbound : Inbound) (body : Bytes)
    (credential : Option (String × HeaderValue)) : Option UpstreamRequest :=
  let request : UpstreamRequest :=
    { method := inbound.method
      origin := config.origin
      path := route.upstreamPath
      query := inbound.query
      headers :=
        (inbound.headers.filter fun header => !strippedRequestHeaders.contains header.1) ++ credential.toList
      body := body }
  if config.wellFormed request then some request else none

/-- Sends, and once more with a fresh credential after a 401. -/
def sendWithCredentialRetry (route : Route) (inbound : Inbound) (body : Bytes) :
    GatewayProgram (Option UpstreamResponse) := do
  let credential ← outboundCredential config presented
  match buildUpstreamRequest config route inbound body credential with
  | none => return none
  | some request =>
  let answered ← GatewayCall.dispatch request
  match answered with
  | none => return none
  | some response =>
  if response.status ≠ 401 then return some response
  else if !config.hasCredentials then return some response
  else
  let refreshed ← GatewayCall.refresh
  if !refreshed then return some response
  else
  let credential ← outboundCredential config presented
  match buildUpstreamRequest config route inbound body credential with
  | none => return none
  | some retry =>
  let retried ← GatewayCall.dispatch retry
  match retried with
  | some retried => return some retried
  | none => return some response

end Sending

/-! ### Closing -/

structure SettleContext where
  reservationId : ReservationId
  resourceKind : ResourceKind
  model : String
  maxTokens : Nat
  record : GatewayRequestRecord
  isSse : Bool
  shared : Option SharedHold
  deriving DecidableEq, Repr

section Closing

variable (config : GatewayConfig)

/-- The relay's loop; only the timer of a shared hold makes calls. -/
def relayLoop (ctx : SettleContext) : Relay → List RelayEvent → GatewayProgram (Relay × RelayEnd)
  | r, [] => return (r, .completedCleanly)
  | r, .renewal :: rest =>
      match ctx.shared with
      | none => relayLoop ctx r rest
      | some hold => do
          GatewayCall.tell (.renewShared hold.id config.ttlSecs)
          relayLoop ctx r rest
  | r, .failed :: _ => return (r, .streamAborted)
  | r, .frame data taken :: rest =>
      let r := r.tapFrame config.frame ctx.isSse data
      if taken then relayLoop ctx r rest else return (r, .clientDisconnected)

/-- The record of a response that was relayed to its end. -/
def closedRecord (ctx : SettleContext) (observed : Option ObservedUsage) (actual : Option ResourceAmount)
    (ended : RelayEnd) : GatewayRequestRecord :=
  { ctx.record with
    inputTokens := (observed.map ObservedUsage.inputTokens).or ctx.record.inputTokens
    cacheCreationInputTokens :=
      (observed.map ObservedUsage.cacheCreationInputTokens).or ctx.record.cacheCreationInputTokens
    cacheReadInputTokens :=
      (observed.map ObservedUsage.cacheReadInputTokens).or ctx.record.cacheReadInputTokens
    outputTokens := (observed.map ObservedUsage.outputTokens).or ctx.record.outputTokens
    boundViolated := ctx.record.boundViolated ||
      observed.any fun usage => decide (0 < ctx.maxTokens ∧ ctx.maxTokens < usage.outputTokens)
    usageKnown := actual.isSome
    settledAmount := actual.or ctx.record.reservedAmount
    terminalState := ended.terminal }

def pumpAndSettle (ctx : SettleContext) (events : List RelayEvent) : GatewayProgram Unit := do
  let (relay, ended) ← relayLoop config ctx .new events
  let acc := relay.read config.frame ctx.isSse
  let actual := acc.observed.bind fun usage =>
    (settledCost ctx.resourceKind usage ctx.model config.pricing).toOption
  match ctx.shared with
  | none => pure ()
  | some hold => GatewayCall.tell (.settleShared ⟨hold, Relay.settledFacts ctx.isSse acc ended⟩)
  GatewayCall.tell (.settleTask ctx.reservationId actual)
  GatewayCall.tell (.record (closedRecord ctx acc.observed actual ended))

/-- The provider did not bill: both holds are given back. -/
def releaseAll (id : ReservationId) (shared : Option SharedHold) : GatewayProgram Unit := do
  GatewayCall.tell (.releaseTask id)
  match shared with
  | none => pure ()
  | some hold => GatewayCall.tell (.releaseShared hold.id)

end Closing

/-! ### A metered request -/

/-- What is known of a metered request once its body was read. -/
structure Metered where
  inbound : Inbound
  body : Bytes
  presented : PresentedCredential
  model : String
  sessionId : String

namespace Metered

variable (config : GatewayConfig) (r : Metered)

def envelope : MessagesEnvelope := parseMessagesEnvelope (config.json r.body)

/-- The reservation of the request in a budget's own unit. -/
def worstCase (kind : ResourceKind) : Except EnforcementGap ResourceAmount :=
  worstCaseReservation kind r.body.length (r.envelope config).maxTokens r.model
    (requestsFastSpeed (config.json r.body)) config.pricing

def spendRequest (context : BudgetContext) (amount : ResourceAmount) : SpendRequest :=
  ⟨context.taskId, r.sessionId, amount, "gw:" ++ r.inbound.id, config.ttlSecs⟩

def sharedRequest : SharedReserveRequest where
  sessionId := r.sessionId
  model := r.model
  bodyBytes := r.body.length
  maxTokens := (r.envelope config).maxTokens
  imageCount := imageBlockCount (config.json r.body)
  fastRequested := requestsFastSpeed (config.json r.body)
  requestId := r.inbound.id
  ttlSecs := config.ttlSecs

/-- From the provider's answer on. -/
def answered (context : BudgetContext) (id : ReservationId) (shared : Option SharedHold)
    (record : GatewayRequestRecord) (upstream : Option UpstreamResponse) : GatewayProgram Served := do
  match upstream with
  | none =>
      releaseAll id shared
      return {
        response := ⟨502, some .upstreamUnavailable,
          .refusal "the upstream provider could not be reached"⟩
        record := { record with decision := .upstreamUnavailable, terminalState := .upstreamUnavailable }
        pumpOwnsRecord := false }
  | some response =>
  let record := { record with upstreamStatus := some response.status }
  if !statusIsSuccess response.status then do
    releaseAll id shared
    return ⟨⟨response.status, none, .relayed⟩, { record with terminalState := .upstreamRejected }, false⟩
  else do
  let record := { record with terminalState := .completedCleanly }
  pumpAndSettle config
    { reservationId := id
      resourceKind := context.resourceKind
      model := r.model
      maxTokens := (r.envelope config).maxTokens.getD 0
      record := record
      isSse := isEventStream response (r.envelope config).stream
      shared := shared }
    response.events
  return ⟨⟨response.status, some .allowed, .relayed⟩, record, true⟩

/-- From the granted reservations on. -/
def forward (context : BudgetContext) (id : ReservationId) (shared : Option SharedHold)
    (record : GatewayRequestRecord) : GatewayProgram Served := do
  let upstream ← sendWithCredentialRetry config r.presented .messages r.inbound r.body
  answered config r context id shared record upstream

/-- Why the shared budget refuses, and with what detail. -/
def sharedRefusal : Option SharedDecision → Option (GatewayDecision × Option DecisionDetail × String)
  | some .notConsulted => none
  | some (.granted _) => none
  | some (.denied (.capExhausted _)) =>
      some (.sharedBudgetExceeded, none, "this request would exceed the shared monthly budget")
  | some (.denied .unattributable) =>
      some (.sharedBudgetUnattributable, none,
        "this session cannot be attributed in the shared monthly budget")
  | some (.denied (.unenforceable gap)) =>
      some (.unenforceableRequest, some (.gap gap),
        "the request has no finite worst-case cost in the shared monthly budget")
  | some (.denied .unavailable) =>
      some (.sharedBudgetUnavailable, none, "the shared monthly budget could not authorize this spend")
  | none => some (.sharedBudgetUnavailable, none, "the shared monthly budget could not authorize this spend")

def grantedHold : Option SharedDecision → Option SharedHold
  | some (.granted hold) => some hold
  | _ => none

/-- From the task's reservation on: the shared budget is asked after it, and gives it back. -/
def reserved (enforced : Bool) (context : BudgetContext) (id : ReservationId)
    (record : GatewayRequestRecord) : GatewayProgram Served := do
  if !enforced then forward config r context id none record
  else do
  let decision ← GatewayCall.hold (r.sharedRequest config)
  match sharedRefusal decision with
  | some (refused, detail, reason) =>
      releaseAll id none
      reject { record with decisionDetail := detail.or record.decisionDetail } 403 refused reason
  | none => forward config r context id (grantedHold decision) record

def denialDecision : SpendDenial → GatewayDecision × String
  | .policyDenied _ => (.budgetExceeded, "this request would exceed the budget admitted for this task")
  | .insufficient .. =>
      (.budgetExceeded, "this task has no remaining budget outside its protected completion reserve")
  | .noBudget => (.noBudget, "this task has no admitted budget, so no spend can be authorized")

def gapDecision : EnforcementGap → GatewayDecision × String
  | .unpricedModel _ =>
      (.unpricedModel, "this model has no pinned price, so a currency budget cannot be enforced against it")
  | .unboundedRequest =>
      (.unenforceableRequest,
        "the request declares no positive max_tokens, so its cost has no upper bound")
  | .unsupportedResourceKind _ =>
      (.unenforceableRequest,
        "this task's budget is denominated in a unit that cannot be derived from token counts")
  | .unmeasurableUsage _ => (.unenforceableRequest, "the request's usage cannot be priced")

/-- From the task's budget on. -/
def costed (enforced : Bool) (context : BudgetContext) (record : GatewayRequestRecord) :
    GatewayProgram Served := do
  match r.worstCase config context.resourceKind with
  | .error gap =>
      reject { record with decisionDetail := some (.gap gap) } 403 (gapDecision gap).1 (gapDecision gap).2
  | .ok amount =>
  let record := { record with reservedAmount := some amount }
  let decision ← GatewayCall.spend (r.spendRequest config context amount)
  match decision with
  | none => reject record 403 .noBudget "the local ledger could not authorize this spend"
  | some (.denied denial) =>
      reject { record with decisionDetail := some (.denial denial) } 403 (denialDecision denial).1
        (denialDecision denial).2
  | some (.granted id _ approvalRequired) =>
      let record := { record with reservationId := some id }
      reserved config r enforced context id
        (if approvalRequired then { record with decisionDetail := some .approvalRequired } else record)

/-- From the shared budget's mode on. -/
def bounded (enforced : Bool) (record : GatewayRequestRecord) : GatewayProgram Served := do
  match if enforced then screenUnboundedInputs (config.json r.body) else none with
  | some what =>
      reject { record with decisionDetail := some (.unboundedInput what) } 403 .unenforceableRequest
        "the request references input the shared budget cannot bound from its body"
  | none =>
  let context ← GatewayCall.context r.sessionId
  match context with
  | none =>
      reject record 403 .noBudget
        "the local ledger could not be consulted, so no spend can be authorized"
  | some none =>
      reject record 403 .taskUnbound
        "this session has no admitted task, so there is no budget to spend against"
  | some (some context) =>
      costed config r enforced context
        { record with taskId := some context.taskId, resourceKind := some context.resourceKind }

def start (record : GatewayRequestRecord) : GatewayProgram Served := do
  if !config.hasShared then bounded config r false record
  else do
  let mode ← GatewayCall.mode
  match mode with
  | some .notConsulted => bounded config r false record
  | some .enforce => bounded config r true record
  | _ =>
      reject record 403 .sharedBudgetUnavailable
        "the shared monthly budget is in force but cannot be enforced here"

end Metered

/-! ### Any request -/

section Handler

variable (config : GatewayConfig) (inbound : Inbound)

/-- `POST /v1/messages`. -/
def handleMeteredRequest (presented : PresentedCredential) (body : Bytes) (record : GatewayRequestRecord) :
    GatewayProgram Served :=
  let envelope := parseMessagesEnvelope (config.json body)
  let record := { record with model := envelope.model, maxTokens := envelope.maxTokens }
  match envelope.model with
  | none =>
      reject record 403 .unenforceableRequest
        "the request declares no model, so its cost cannot be bounded"
  | some model =>
  let sessionId := (inbound.headers.get config.sessionHeader).bind HeaderValue.toStr
  let record := { record with sessionId := sessionId }
  match sessionId.filter fun s => decide (s ≠ "") with
  | none =>
      reject record 403 .taskUnbound
        "the request carries no session binding, so no task budget can be charged"
  | some sessionId => Metered.start config ⟨inbound, body, presented, model, sessionId⟩ record

/-- A free endpoint: nothing is reserved. -/
def forwardUnmetered (route : Route) (body : Bytes) (record : GatewayRequestRecord) :
    GatewayProgram Served := do
  let credential ← outboundCredential config (presentedCredential inbound.headers)
  match buildUpstreamRequest config route inbound body credential with
  | none => reject record 502 .upstreamUnavailable "the upstream request could not be constructed"
  | some request =>
  let answered ← GatewayCall.dispatch request
  match answered with
  | none =>
      return {
        response := ⟨502, some .upstreamUnavailable,
          .refusal "the upstream provider could not be reached"⟩
        record := { record with terminalState := .upstreamUnavailable }
        pumpOwnsRecord := false }
  | some response =>
      let record := { record with upstreamStatus := some response.status }
      return {
        response := ⟨response.status, none, .relayed⟩
        record :=
          if statusIsSuccess response.status then record else { record with terminalState := .upstreamRejected }
        pumpOwnsRecord := false }

/-- From the body on. -/
def runRoute (presented : PresentedCredential) (route : Route) (record : GatewayRequestRecord) :
    GatewayProgram Served :=
  match readBody config.maxRequestBytes [] inbound.frames with
  | .error .tooLarge =>
      reject record 413 .payloadTooLarge "the request body exceeds the gateway's configured maximum"
  | .error .io =>
      reject record 400 .unenforceableRequest "the request body could not be read in full"
  | .ok body =>
  if !inbound.permit then
    reject record 503 .overloaded "too many requests are already in flight through the local gateway"
  else if !route.isMetered then
    forwardUnmetered config inbound route body { record with terminalState := .forwardedUnmetered }
  else handleMeteredRequest config inbound presented body record

def runRequest (record : GatewayRequestRecord) : GatewayProgram Served :=
  let hostOk := (((inbound.headers.get "host").bind HeaderValue.toStr).map (acceptsHost config)).getD false
  if !hostOk then
    reject record 421 .hostMismatch "this request names a host the local gateway does not serve"
  else
  let presented := presentedCredential inbound.headers
  if presented = .ambiguous then
    reject record 400 .ambiguousCredential
      "Authorization and x-api-key disagree; refusing rather than guessing which to use"
  else
  if config.governorHeld && !holdsToken config presented then
    reject record 401 .unauthorized "the local gateway capability token was missing or did not match"
  else
  match matchRoute inbound.method inbound.path with
  | none => reject record 404 .routeNotFound "this endpoint is not proxied by the local gateway"
  | some route =>
  let record := { record with route := some route.upstreamPath }
  if route.isAnsweredLocally then
    return {
      response := ⟨200, none, .empty⟩
      record := { record with decision := .allowed, terminalState := .answeredLocally }
      pumpOwnsRecord := false }
  else runRoute config inbound presented route record

/-- One request, with the one record it leaves. -/
def handleRequest : GatewayProgram GatewayResponse := do
  let served ← runRequest config inbound { id := inbound.id }
  if !served.pumpOwnsRecord then GatewayCall.tell (.record served.record)
  return served.response

end Handler

end LibraGovernor
