import PolicyOS.Foundation.Retries
import PolicyOS.Mcp.Domain

/-!
# The gateway to MCP tools

A call is authorized and its arguments are validated; then the client is asked, again after a
timeout or an error that may pass, until no repetition is left and the cache is looked at. How the
call went is recorded whichever way it ends.
-/

namespace PolicyOS.Mcp

open Foundation

/-! ## The cache -/

/-- What a cached result is looked up by. -/
structure CacheKey where
  server : String
  tool : String
  parametersHash : String
  organizationId : UUID
  classification : DataClassification
  sourceVersion : String
  deriving DecidableEq

/-- A cached result, with the instants it was retrieved and expires at, in microseconds. -/
structure CacheEntry where
  result : MCPToolCallResult
  retrievedAt : DateTime
  expiresAt : DateTime

/-- A cache in memory, or none. -/
inductive MCPResultCache
  | inMemory (entries : CacheKey → Option CacheEntry)
  | disabled

/-- The result of a key, marked as one from the cache, and stale if it has expired. -/
def MCPResultCache.get (now : DateTime) (allowStale : Bool) (key : CacheKey) :
    MCPResultCache → Option (MCPToolCallResult × Bool)
  | .disabled => none
  | .inMemory entries =>
      (entries key).bind fun entry =>
        let stale := decide (entry.expiresAt < now)
        if stale && !allowStale then none
        else some
          ({ entry.result with
             fromCache := true
             stale := stale
             warnings := entry.result.warnings ++ if stale then ["stale_cache"] else [] }, stale)

/-- The first and the last instant there is a date for. -/
def datetimeMin : DateTime := -62135596800000000
def datetimeMax : DateTime := 253402300799999999

/-- Store a result, where the instant it expires at has a date. -/
def MCPResultCache.put (now : DateTime) (ttlSeconds : Int) (key : CacheKey)
    (result : MCPToolCallResult) : MCPResultCache → Except Raised MCPResultCache
  | .disabled => .ok .disabled
  | .inMemory entries => do
      let expiresAt := now + ttlSeconds * 1000000
      rejectIf (expiresAt < datetimeMin ∨ datetimeMax < expiresAt) (.other "OverflowError")
      pure (.inMemory (Function.update entries key (some ⟨result, now, expiresAt⟩)))

/-! ## Calls -/

/-- A gateway: the servers and tools of its registry, the transports it has a client for, and how
it repeats calls. -/
structure GovernedMCPGateway where
  registry : List (MCPServerDefinition × List MCPToolDefinition)
  clients : List MCPTransportType
  requireApprovalForWrites : Bool := true
  maxRetries : Int := 2
  cacheTtlSeconds : Int := 300
  allowStaleCache : Bool := true

/-- What a client does when it is called. -/
inductive ClientOutcome
  | result (result : MCPToolCallResult)
  | timeout
  | mcpError (error : MCPError)
  | other (name : String)
  | cancelled

/-- A call, with what its client does each time it is called, whether it is cancelled while it
waits before a repetition, and the instant its last look at the cache is made. -/
structure ToolCall where
  request : MCPToolCallRequest
  outcomes : Nat → ClientOutcome
  cancelledWait : Nat → Bool := fun _ => false
  now : DateTime := 0

/-- What is recorded of a call. -/
structure MCPAuditMetadata where
  organizationId : UUID
  userId : UUID
  serverName : String
  serverVersion : String
  toolName : String
  actionType : String
  requestId : UUID
  correlationId : String
  dataClassification : DataClassification
  permissionDecision : String
  policyDecision : String
  retryCount : Nat
  resultSize : Nat
  success : Bool
  errorCode : Option String
  humanApprovalRequired : Bool
  humanApprovalReference : Option String
  externalTransmission : Bool

/-- How a call went: how often the client was called, what was returned or raised, what was
recorded, and the cache it leaves. -/
structure CallEnd where
  clientCalls : Nat
  outcome : Except Raised MCPToolCallResult
  records : List MCPAuditMetadata
  cache : MCPResultCache

/-- The server of a name and its tool of a name. -/
def GovernedMCPGateway.find (gateway : GovernedMCPGateway) (request : MCPToolCallRequest) :
    Except Raised (MCPServerDefinition × MCPToolDefinition) :=
  match gateway.registry.find? fun entry => entry.1.stableName = request.serverName with
  | none => .error (.mcp { code := .unknownServer, message := "Unknown MCP server" })
  | some (server, tools) =>
      match tools.find? fun tool => tool.name = request.toolName with
      | none => .error (.mcp { code := .unknownTool, message := "Unknown MCP tool" })
      | some tool => .ok (server, tool)

/-- How the attempts of a call end: with a validated result, with none left after an error that
may pass, with something raised by an attempt, or by waiting before a repetition. -/
inductive Attempted
  | validated (result : MCPToolCallResult)
  | exhausted (error : MCPError)
  | raised (raised : Raised)
  | interrupted (raised : Raised)

variable (texts : Texts)

/-- The key of a call to a tool. -/
def cacheKey (server : MCPServerDefinition) (tool : MCPToolDefinition)
    (request : MCPToolCallRequest) : CacheKey where
  server := server.stableName
  tool := tool.name
  parametersHash := texts.parametersHash request.context.organizationId request.arguments
  organizationId := request.context.organizationId
  classification := request.context.dataClassification
  sourceVersion := server.version

/-- A call of the client and the validation of its result. -/
def settle (server : MCPServerDefinition) (tool : MCPToolDefinition) :
    ClientOutcome → Except Raised MCPToolCallResult
  | .result result => validateOutput texts tool result server.maxResultBytes
  | .timeout => .error (.mcp
      { code := .timeout, message := "MCP call timed out", retryable := true })
  | .mcpError error => .error (.mcp error)
  | .other name => .error (.other name)
  | .cancelled => .error .cancelled

/-- What the handlers make of an attempt. -/
def handled : Except Raised MCPToolCallResult → Verdict Attempted
  | .ok result => .final (.validated result)
  | .error (.mcp error) =>
      if error.retryable then .again (.exhausted error) else .final (.raised (.mcp error))
  | .error raised => .final (.raised raised)

/-- What waiting before a repetition raises: the wait is computed from the number of the
repetition where the error does not say how long it is, and it may be cancelled. -/
def waitFails (call : ToolCall) (settled : Except Raised MCPToolCallResult) (made : Nat) :
    Option Raised :=
  match settled with
  | .error (.mcp error) =>
      if error.retryAfter = none ∧ 1024 ≤ made - 1 then some (.other "OverflowError")
      else if call.cancelledWait made then some .cancelled
      else none
  | _ => none

/-- The attempts of a call. -/
def attempts (maxRetries : Int) (server : MCPServerDefinition) (tool : MCPToolDefinition)
    (call : ToolCall) : RetryLoop Attempted where
  limit := maxRetries
  attempt := fun made => handled (settle texts server tool (call.outcomes made))
  pause := fun made =>
    (waitFails call (settle texts server tool (call.outcomes (made - 1))) made).map .interrupted

/-- What is kept of a call while it runs, to be recorded at its end. -/
structure Progress where
  decision : String := "deny"
  clientCalls : Nat := 0
  retries : Nat := 0
  resultSize : Nat := 0
  outcome : Except Raised MCPToolCallResult
  cache : MCPResultCache

/-- The end of a call that got as far as its attempts. -/
def conclude (gateway : GovernedMCPGateway) (call : ToolCall) (key : CacheKey)
    (cache : MCPResultCache) (decision : String) (ended : Ended Attempted) : Progress :=
  let base : Progress :=
    { decision := decision
      clientCalls := ended.attempts
      retries := ended.attempts - 1
      outcome := .error .cancelled
      cache := cache }
  match ended.outcome with
  | .validated result =>
      match cache.put call.now gateway.cacheTtlSeconds key result with
      | .error raised => { base with resultSize := result.resultSize, outcome := .error raised }
      | .ok stored =>
          { base with
            resultSize := result.resultSize
            outcome := .ok { result with retryCount := ended.attempts - 1 }
            cache := stored }
  | .exhausted error =>
      match cache.get call.now gateway.allowStaleCache key with
      | some (result, _) =>
          { base with outcome := .ok { result with retryCount := ended.attempts - 1 } }
      | none => { base with outcome := .error (.mcp error) }
  | .raised raised => { base with outcome := .error raised }
  | .interrupted raised => { base with retries := ended.attempts, outcome := .error raised }

/-- A call to a registered tool, up to its end. -/
def progress (gateway : GovernedMCPGateway) (cache : MCPResultCache)
    (server : MCPServerDefinition) (tool : MCPToolDefinition) (call : ToolCall) : Progress :=
  if server.enabled = false then
    { outcome := .error (.mcp { code := .disabled, message := "MCP server is disabled" })
      cache := cache }
  else
    match authorize gateway.requireApprovalForWrites server tool call.request.context with
    | .error raised => { outcome := .error raised, cache := cache }
    | .ok decision =>
        match validateInput texts tool call.request.arguments with
        | .error raised => { decision := decision, outcome := .error raised, cache := cache }
        | .ok () =>
            if server.transportType ∉ gateway.clients then
              { decision := decision
                outcome := .error (.mcp
                  { code := .disabled, message := "MCP transport is unavailable" })
                cache := cache }
            else
              conclude gateway call (cacheKey texts server tool call.request) cache decision
                (attempts texts gateway.maxRetries server tool call).run

/-- The code of an error of the gateway's own, which is all that is looked for. -/
def errorCode : Except Raised MCPToolCallResult → Option String
  | .error (.mcp error) => some error.code.value
  | _ => none

/-- What is recorded of a call. It is a success where there is no error code. -/
def auditRecord (server : MCPServerDefinition) (tool : MCPToolDefinition)
    (request : MCPToolCallRequest) (made : Progress) : MCPAuditMetadata where
  organizationId := request.context.organizationId
  userId := request.context.userId
  serverName := server.stableName
  serverVersion := server.version
  toolName := tool.name
  actionType := "tool_call"
  requestId := request.context.requestId
  correlationId := request.context.correlationId
  dataClassification := request.context.dataClassification
  permissionDecision := made.decision
  policyDecision := made.decision
  retryCount := made.retries
  resultSize := made.resultSize
  success := (errorCode made.outcome).isNone
  errorCode := errorCode made.outcome
  humanApprovalRequired := server.requiresHumanApproval || !tool.readOnly
  humanApprovalReference := request.context.humanApprovalReference
  externalTransmission := server.external

/-- Call a tool. A server or a tool that is not registered is refused without a record. -/
def callTool (gateway : GovernedMCPGateway) (cache : MCPResultCache) (call : ToolCall) : CallEnd :=
  match gateway.find call.request with
  | .error raised => ⟨0, .error raised, [], cache⟩
  | .ok (server, tool) =>
      let made := progress texts gateway cache server tool call
      ⟨made.clientCalls, made.outcome, [auditRecord server tool call.request made], made.cache⟩

end PolicyOS.Mcp
