import PolicyOS.Mcp.Gateway

/-!
# Audited tool calls

The gateway asks its client as often as it may and after its checks only, and returns what was
validated for the key of the call. Its record is a success where no error of its own was raised:
so also where another exception ends the call, which returns nothing then.
-/

namespace PolicyOS.Mcp

open Foundation

variable {texts : Texts} {gateway : GovernedMCPGateway} {cache after : MCPResultCache}
  {call : ToolCall} {server : MCPServerDefinition} {tool : MCPToolDefinition} {key : CacheKey}
  {now : DateTime} {made : Nat}

/-! ## Validated results -/

/-- A result was validated by a call of a key. -/
def ValidatedFor (texts : Texts) (key : CacheKey) (result : MCPToolCallResult) : Prop :=
  ∃ server tool request raw, cacheKey texts server tool request = key ∧
    validateOutput texts tool raw server.maxResultBytes = .ok result

/-- The entry of a key. -/
def MCPResultCache.entry (key : CacheKey) : MCPResultCache → Option CacheEntry
  | .inMemory entries => entries key
  | .disabled => none

/-- Whatever is cached was validated by a call of its key. -/
def Validated (texts : Texts) (cache : MCPResultCache) : Prop :=
  ∀ key, ∀ entry ∈ cache.entry key, ValidatedFor texts key entry.result

/-- A cache that calls of gateways have filled. -/
inductive Filled (texts : Texts) : MCPResultCache → Prop
  | empty : Filled texts (.inMemory fun _ => none)
  | disabled : Filled texts .disabled
  | called {cache : MCPResultCache} (filled : Filled texts cache) (gateway : GovernedMCPGateway)
      (call : ToolCall) : Filled texts (callTool texts gateway cache call).cache

/-- What is got from a cache is the result of an entry, marked. -/
theorem entry_of_get {allowStale stale : Bool} {result : MCPToolCallResult}
    (got : cache.get now allowStale key = some (result, stale)) :
    ∃ entry ∈ cache.entry key, ∃ warnings, result =
      { entry.result with fromCache := true, stale := stale, warnings := warnings } := by
  cases cache with
  | disabled => exact nomatch got
  | inMemory entries =>
      simp only [MCPResultCache.get, Option.bind_eq_some_iff, Option.ite_none_left_eq_some,
        Option.some.injEq, Prod.mk.injEq] at got
      obtain ⟨entry, isEntry, -, marked, rfl⟩ := got
      exact ⟨entry, isEntry, _, marked.symm⟩

/-- Storing a result of a key keeps every other entry. -/
theorem Validated.put {ttl : Int} {result : MCPToolCallResult} (validated : Validated texts cache)
    (isValidated : ValidatedFor texts key result)
    (stored : cache.put now ttl key result = .ok after) : Validated texts after := by
  cases cache with
  | disabled =>
      obtain rfl : MCPResultCache.disabled = after := Except.ok.inj stored
      exact validated
  | inMemory entries =>
      simp only [MCPResultCache.put, bind_eq_ok_iff, exists_unit_iff, rejectIf_eq_ok_iff,
        pure_eq_ok_iff] at stored
      obtain ⟨-, rfl⟩ := stored
      intro other entry isEntry
      simp only [MCPResultCache.entry, Function.update_apply] at isEntry
      split_ifs at isEntry with same
      · subst same
        obtain rfl := Option.some.inj isEntry
        exact isValidated
      · exact validated other entry isEntry

theorem foreign_of_put {ttl : Int} {result : MCPToolCallResult} {raised : Raised}
    (failed : cache.put now ttl key result = .error raised) : raised.Foreign := by
  cases cache with
  | disabled => cases failed
  | inMemory entries =>
      simp only [MCPResultCache.put, bind_eq_error_iff, rejectIf_eq_error_iff] at failed
      rcases failed with ⟨-, rfl⟩ | ⟨_, -, failed⟩
      · trivial
      · cases failed

/-! ## Attempts -/

/-- What the client does is settled. -/
abbrev ToolCall.settled (texts : Texts) (server : MCPServerDefinition) (tool : MCPToolDefinition)
    (call : ToolCall) (made : Nat) : Except Raised MCPToolCallResult :=
  settle texts server tool (call.outcomes made)

/-- After an attempt another one may be made. -/
def Passes : Except Raised MCPToolCallResult → Prop
  | .error (.mcp error) => error.retryable = true
  | _ => False

theorem handled_again_iff {settled : Except Raised MCPToolCallResult} :
    (∃ attempted, handled settled = .again attempted) ↔ Passes settled := by
  rcases settled with (error | name | _) | result
  · by_cases retryable : error.retryable <;> simp [handled, Passes, retryable]
  all_goals simp [handled, Passes]

theorem exhausted_of_handled {settled : Except Raised MCPToolCallResult} {attempted : Attempted}
    (answered : handled settled = .again attempted) : ∃ error, attempted = .exhausted error := by
  rcases settled with (error | name | _) | result
  · by_cases retryable : error.retryable
    · simp only [handled, retryable, if_true, Verdict.again.injEq] at answered
      exact ⟨error, answered.symm⟩
    · simp [handled, retryable] at answered
  all_goals simp [handled] at answered

/-- A validated attempt is one whose result is. -/
theorem settled_of_validated {checked : MCPToolCallResult}
    (answered : handled (call.settled texts server tool made) = .final (.validated checked)) :
    ∃ raw, call.outcomes made = .result raw ∧
      validateOutput texts tool raw server.maxResultBytes = .ok checked := by
  unfold ToolCall.settled at answered
  cases outcome : call.outcomes made with
  | result raw =>
      refine ⟨raw, rfl, ?_⟩
      rw [outcome] at answered
      simp only [settle] at answered
      rcases settled : validateOutput texts tool raw server.maxResultBytes with
        (error | name | _) | result
      · rw [settled] at answered
        by_cases retryable : error.retryable <;> simp [handled, retryable] at answered
      all_goals simp_all [handled]
  | mcpError error =>
      rw [outcome] at answered
      by_cases retryable : error.retryable <;> simp [settle, handled, retryable] at answered
  | timeout | other | cancelled => simp [outcome, settle, handled] at answered

/-- An attempt after which the call ends with no exception but the gateway's own. -/
def Known (gateway : GovernedMCPGateway) (cache : MCPResultCache) (call : ToolCall)
    (key : CacheKey) : Attempted → Prop
  | .validated result => Accepted (cache.put call.now gateway.cacheTtlSeconds key result)
  | .exhausted _ => True
  | .raised raised | .interrupted raised => ¬ raised.Foreign

theorem conclude_clientCalls {decision : String} {ended : Ended Attempted} :
    (conclude gateway call key cache decision ended).clientCalls = ended.attempts := by
  unfold conclude
  split
  · split <;> rfl
  · split <;> rfl
  · rfl
  · rfl

theorem conclude_foreign_iff {decision : String} {ended : Ended Attempted} :
    (∀ raised, (conclude gateway call key cache decision ended).outcome = .error raised →
      ¬ raised.Foreign) ↔ Known gateway cache call key ended.outcome := by
  obtain ⟨attempts, attempted⟩ := ended
  cases attempted with
  | validated result =>
      cases stored : cache.put call.now gateway.cacheTtlSeconds key result with
      | ok after =>
          simp only [conclude, stored, Known]
          exact iff_of_true nofun ⟨after, rfl⟩
      | error raised =>
          simp only [conclude, stored, Known]
          exact iff_of_false (fun known => known raised rfl (foreign_of_put stored)) nofun
  | exhausted error =>
      cases got : cache.get call.now gateway.allowStaleCache key with
      | some cached => simp [conclude, got, Known]
      | none => simp [conclude, got, Known, Raised.Foreign]
  | raised raised => simp [conclude, Known]
  | interrupted raised => simp [conclude, Known]

/-- What a call returns was validated in its last attempt, or is got from the cache. -/
theorem returned_of_conclude {decision : String} {ended : Ended Attempted}
    {result : MCPToolCallResult}
    (returned : (conclude gateway call key cache decision ended).outcome = .ok result) :
    (∃ checked, ended.outcome = .validated checked ∧
        result = { checked with retryCount := ended.attempts - 1 }) ∨
      ∃ cached stale, cache.get call.now gateway.allowStaleCache key = some (cached, stale) ∧
        result = { cached with retryCount := ended.attempts - 1 } := by
  obtain ⟨attempts, attempted⟩ := ended
  cases attempted with
  | validated checked =>
      cases stored : cache.put call.now gateway.cacheTtlSeconds key checked with
      | ok after =>
          simp only [conclude, stored, Except.ok.injEq] at returned
          exact .inl ⟨checked, rfl, returned.symm⟩
      | error raised => simp [conclude, stored] at returned
  | exhausted error =>
      cases got : cache.get call.now gateway.allowStaleCache key with
      | some cached =>
          simp only [conclude, got, Except.ok.injEq] at returned
          exact .inr ⟨cached.1, cached.2, rfl, returned.symm⟩
      | none => simp [conclude, got] at returned
  | raised raised => simp [conclude] at returned
  | interrupted raised => simp [conclude] at returned

/-- The cache is left as it was, or a validated result was stored. -/
theorem cache_of_conclude {decision : String} {ended : Ended Attempted} :
    (conclude gateway call key cache decision ended).cache = cache ∨
      ∃ checked, ended.outcome = .validated checked ∧
        cache.put call.now gateway.cacheTtlSeconds key checked =
          .ok (conclude gateway call key cache decision ended).cache := by
  obtain ⟨attempts, attempted⟩ := ended
  cases attempted with
  | validated checked =>
      cases stored : cache.put call.now gateway.cacheTtlSeconds key checked with
      | ok after => exact .inr ⟨checked, rfl, by simp only [conclude, stored]⟩
      | error raised => exact .inl (by simp only [conclude, stored])
  | exhausted error =>
      left
      cases got : cache.get call.now gateway.allowStaleCache key <;> simp only [conclude, got]
  | raised raised => exact .inl rfl
  | interrupted raised => exact .inl rfl

/-! ## Calls -/

/-- The server is enabled and the call is authorized. -/
def Authorized (gateway : GovernedMCPGateway) (call : ToolCall) (server : MCPServerDefinition)
    (tool : MCPToolDefinition) : Prop :=
  server.enabled = true ∧
    Accepted (authorize gateway.requireApprovalForWrites server tool call.request.context)

/-- The client is asked: the call is authorized, its arguments are valid, and there is a client
for the transport. -/
def Asks (texts : Texts) (gateway : GovernedMCPGateway) (call : ToolCall)
    (server : MCPServerDefinition) (tool : MCPToolDefinition) : Prop :=
  Authorized gateway call server tool ∧
    validateInput texts tool call.request.arguments = .ok () ∧
      server.transportType ∈ gateway.clients

theorem not_foreign_of_authorize {approval : Bool} {context : MCPExecutionContext}
    {raised : Raised} (refused : authorize approval server tool context = .error raised) :
    ¬ raised.Foreign := by
  simp only [authorize, bind_eq_error_iff, rejectIf_eq_error_iff, exists_unit_iff, Pure.pure,
    Except.pure, reduceCtorEq, and_false, or_false] at refused
  rcases refused with ⟨-, rfl⟩ | ⟨-, ⟨-, rfl⟩ | ⟨-, ⟨-, rfl⟩ | ⟨-, ⟨-, rfl⟩ | ⟨-, ⟨-, rfl⟩ |
    ⟨-, ⟨-, rfl⟩ | ⟨-, -, rfl⟩⟩⟩⟩⟩⟩
  all_goals exact id

/-- How a call gets to its end: without asking the client, or through its attempts. -/
inductive Progressed (texts : Texts) (gateway : GovernedMCPGateway) (cache : MCPResultCache)
    (call : ToolCall) (server : MCPServerDefinition) (tool : MCPToolDefinition) :
    Progress → Prop
  | refused {progress : Progress} {raised : Raised} (unasked : ¬ Asks texts gateway call server tool)
      (calls : progress.clientCalls = 0) (kept : progress.cache = cache)
      (outcome : progress.outcome = .error raised)
      (foreign : raised.Foreign ↔ Authorized gateway call server tool ∧
        ∃ raised, validateInput texts tool call.request.arguments = .error raised ∧
          raised.Foreign) : Progressed texts gateway cache call server tool progress
  | asked {decision : String} (asks : Asks texts gateway call server tool) :
      Progressed texts gateway cache call server tool
        (conclude gateway call (cacheKey texts server tool call.request) cache decision
          (attempts texts gateway.maxRetries server tool call).run)

theorem progressed (texts : Texts) (gateway : GovernedMCPGateway) (cache : MCPResultCache)
    (call : ToolCall) (server : MCPServerDefinition) (tool : MCPToolDefinition) :
    Progressed texts gateway cache call server tool
      (progress texts gateway cache server tool call) := by
  unfold progress
  by_cases disabled : server.enabled = false
  · rw [if_pos disabled]
    have unauthorized : ¬ Authorized gateway call server tool := fun ⟨enabled, _⟩ => by
      simp [disabled] at enabled
    exact .refused (fun asks => unauthorized asks.1) rfl rfl rfl
      (iff_of_false id fun failed => unauthorized failed.1)
  rw [if_neg disabled]
  have enabled : server.enabled = true := by simpa using disabled
  cases authorized : authorize gateway.requireApprovalForWrites server tool call.request.context with
  | error raised =>
      have unauthorized : ¬ Authorized gateway call server tool := fun ⟨_, decision, isDecision⟩ =>
        nomatch authorized.symm.trans isDecision
      exact .refused (fun asks => unauthorized asks.1) rfl rfl rfl
        (iff_of_false (not_foreign_of_authorize authorized) fun failed => unauthorized failed.1)
  | ok decision =>
      have isAuthorized : Authorized gateway call server tool := ⟨enabled, decision, authorized⟩
      cases valid : validateInput texts tool call.request.arguments with
      | error raised =>
          refine .refused (fun asks => nomatch valid.symm.trans asks.2.1) rfl rfl rfl ?_
          refine ⟨fun foreign => ⟨isAuthorized, raised, valid, foreign⟩, ?_⟩
          rintro ⟨-, other, isOther, foreign⟩
          rwa [Except.error.inj (valid.symm.trans isOther)]
      | ok value =>
          by_cases missing : server.transportType ∉ gateway.clients
          · simp only [if_pos missing]
            refine .refused (fun asks => missing asks.2.2) rfl rfl rfl (iff_of_false id ?_)
            rintro ⟨-, raised, isRaised, -⟩
            exact nomatch valid.symm.trans isRaised
          · simp only [if_neg missing]
            exact .asked ⟨isAuthorized, valid, not_not.mp missing⟩

/-- The result of a call was validated in one of its attempts, or is one that was cached after a
call of the same key had validated it. -/
def Returned (texts : Texts) (call : ToolCall) (server : MCPServerDefinition)
    (tool : MCPToolDefinition) (result : MCPToolCallResult) : Prop :=
  (∃ made raw checked, call.outcomes made = .result raw ∧
      validateOutput texts tool raw server.maxResultBytes = .ok checked ∧
        result = { checked with retryCount := made }) ∨
    ∃ stored stale warnings made,
      ValidatedFor texts (cacheKey texts server tool call.request) stored ∧
        result = { stored with
          fromCache := true, stale := stale, warnings := warnings, retryCount := made }

/-- How a call is to go: the client is called at most once more than the call may be repeated, and
only if it is authorized and valid; what is returned was validated; and it is recorded once, as a
success exactly if something is returned. -/
structure Governed (texts : Texts) (gateway : GovernedMCPGateway) (call : ToolCall)
    (server : MCPServerDefinition) (tool : MCPToolDefinition) (ended : CallEnd) : Prop where
  bounded : (ended.clientCalls : Int) ≤ gateway.maxRetries + 1
  authorized : 0 < ended.clientCalls → Authorized gateway call server tool ∧
    validateInput texts tool call.request.arguments = .ok ()
  validated : ∀ result, ended.outcome = .ok result → Returned texts call server tool result
  recorded : ∃ record, ended.records = [record] ∧
    (record.success = true ↔ Accepted ended.outcome)

/-- Every attempt the call gets to ends in a way that is recorded: no exception but the gateway's
own is raised by it, by storing its result or by waiting before a repetition. -/
def Undisturbed (texts : Texts) (gateway : GovernedMCPGateway) (cache : MCPResultCache)
    (call : ToolCall) (server : MCPServerDefinition) (tool : MCPToolDefinition) (made : Nat) :
    Prop :=
  match call.settled texts server tool made with
  | .ok result => Accepted (cache.put call.now gateway.cacheTtlSeconds
      (cacheKey texts server tool call.request) result)
  | .error (.mcp error) => error.retryable = true → (made : Int) < gateway.maxRetries →
      waitFails call (call.settled texts server tool made) (made + 1) = none
  | .error _ => False

/-- A call whose end is recorded: its arguments raise no exception but the gateway's own, and
where the client is asked, it may be, and every attempt the call gets to is undisturbed. -/
def Recordable (texts : Texts) (gateway : GovernedMCPGateway) (cache : MCPResultCache)
    (call : ToolCall) (server : MCPServerDefinition) (tool : MCPToolDefinition) : Prop :=
  -1 ≤ gateway.maxRetries ∧
    (Authorized gateway call server tool → ∀ raised,
      validateInput texts tool call.request.arguments = .error raised → ¬ raised.Foreign) ∧
    (Asks texts gateway call server tool → 0 ≤ gateway.maxRetries ∧
      ∀ made : Nat, (made : Int) ≤ gateway.maxRetries →
        (∀ earlier < made, Passes (call.settled texts server tool earlier) ∧
          waitFails call (call.settled texts server tool earlier) (earlier + 1) = none) →
        Undisturbed texts gateway cache call server tool made)

theorem foreign_of_waitFails {settled : Except Raised MCPToolCallResult} {raised : Raised}
    (failed : waitFails call settled made = some raised) : raised.Foreign := by
  unfold waitFails at failed
  split at failed
  · split_ifs at failed
    · obtain rfl := Option.some.inj failed
      trivial
    · obtain rfl := Option.some.inj failed
      trivial
  · exact nomatch failed

/-- Every way an attempt can end the call is known exactly if it is undisturbed. -/
theorem known_of_stops_iff :
    (∀ attempted, (attempts texts gateway.maxRetries server tool call).Stops made attempted →
      Known gateway cache call (cacheKey texts server tool call.request) attempted) ↔
      Undisturbed texts gateway cache call server tool made := by
  rw [RetryLoop.forall_stops_iff]
  simp only [Undisturbed, ToolCall.settled, attempts, Nat.add_sub_cancel]
  rcases settled : settle texts server tool (call.outcomes made) with (error | name | _) | result
  · by_cases retryable : error.retryable
    · simp only [handled, retryable, if_true, reduceCtorEq, false_implies, implies_true,
        Verdict.again.injEq, forall_eq', Known, true_and, forall_const, Option.map_eq_some_iff]
      refine forall_congr' fun left => ⟨fun known => ?_, ?_⟩
      · rw [Option.eq_none_iff_forall_ne_some]
        intro raised failed
        exact known (.interrupted raised) ⟨raised, failed, rfl⟩ (foreign_of_waitFails failed)
      · rintro waited _ ⟨raised, failed, rfl⟩
        cases waited.symm.trans failed
    · simp [handled, retryable, Known, Raised.Foreign]
  all_goals simp [handled, Known, Raised.Foreign]

theorem recorded_iff {request : MCPToolCallRequest} {progress : Progress} :
    (∃ record, [auditRecord server tool request progress] = [record] ∧
        (record.success = true ↔ Accepted progress.outcome)) ↔
      ∀ raised, progress.outcome = .error raised → ¬ raised.Foreign := by
  simp only [List.cons.injEq, and_true, exists_eq_left', auditRecord]
  rcases progress.outcome with (error | name | _) | result
  · simp [errorCode, Accepted, Raised.Foreign]
  · simp [errorCode, Accepted, Raised.Foreign]
  · simp [errorCode, Accepted, Raised.Foreign]
  · simp [errorCode, Accepted]

theorem Validated.returned {allowStale stale : Bool} {cached : MCPToolCallResult}
    (validated : Validated texts cache)
    (got : cache.get call.now allowStale (cacheKey texts server tool call.request) =
      some (cached, stale)) :
    Returned texts call server tool { cached with retryCount := made } := by
  obtain ⟨entry, isEntry, warnings, rfl⟩ := entry_of_get got
  exact .inr ⟨entry.result, stale, warnings, made, validated _ entry isEntry, rfl⟩

theorem reaches_attempt_iff (allowed : 0 ≤ gateway.maxRetries) :
    (attempts texts gateway.maxRetries server tool call).Reaches made ↔
      (made : Int) ≤ gateway.maxRetries ∧ ∀ earlier < made,
        Passes (call.settled texts server tool earlier) ∧
          waitFails call (call.settled texts server tool earlier) (earlier + 1) = none := by
  rw [RetryLoop.reaches_iff allowed]
  refine and_congr_right fun _ => forall₂_congr fun earlier _ => ?_
  simp only [attempts, handled_again_iff, Nat.add_sub_cancel, Option.map_eq_none_iff]

/-- The attempt a loop stops at with a validated result. -/
theorem exists_validated {checked : MCPToolCallResult}
    (ended : (attempts texts gateway.maxRetries server tool call).run.outcome =
      .validated checked) :
    ∃ made raw, (attempts texts gateway.maxRetries server tool call).run.attempts = made + 1 ∧
      call.outcomes made = .result raw ∧
        validateOutput texts tool raw server.maxResultBytes = .ok checked := by
  obtain ⟨made, -, stops, counted⟩ := RetryLoop.run_eq_iff.mp
    (rfl : (attempts texts gateway.maxRetries server tool call).run = _)
  rw [ended] at stops
  cases stops with
  | final answered =>
      obtain ⟨raw, isRaw, checkedRaw⟩ := settled_of_validated answered
      exact ⟨made, raw, counted, isRaw, checkedRaw⟩
  | exhausted answered _ =>
      obtain ⟨error, isError⟩ := exhausted_of_handled answered
      exact nomatch isError
  | interrupted _ _ failed =>
      simp [attempts] at failed

theorem callTool_of_find (texts : Texts) (cache : MCPResultCache)
    (registered : gateway.find call.request = .ok (server, tool)) :
    ∃ made, Progressed texts gateway cache call server tool made ∧
      callTool texts gateway cache call = ⟨made.clientCalls, made.outcome,
        [auditRecord server tool call.request made], made.cache⟩ :=
  ⟨progress texts gateway cache server tool call, progressed texts gateway cache call server tool,
    by simp only [callTool, registered]⟩

/-- A call leaves a validated cache validated. -/
theorem Validated.called (validated : Validated texts cache) (gateway : GovernedMCPGateway)
    (call : ToolCall) : Validated texts (callTool texts gateway cache call).cache := by
  cases registered : gateway.find call.request with
  | error raised =>
      simp only [callTool, registered]
      exact validated
  | ok found =>
      obtain ⟨server, tool⟩ := found
      obtain ⟨made, progressed, isCall⟩ := callTool_of_find texts cache registered
      rw [isCall]
      cases progressed with
      | refused _ _ kept _ _ =>
          rw [kept]
          exact validated
      | asked _ =>
          rcases cache_of_conclude with kept | ⟨checked, ended, stored⟩
          · rw [kept]
            exact validated
          · obtain ⟨_, raw, -, -, isChecked⟩ := exists_validated ended
            exact validated.put ⟨server, tool, call.request, raw, rfl, isChecked⟩ stored

theorem Filled.validated (filled : Filled texts cache) : Validated texts cache := by
  induction filled with
  | empty => exact fun key entry isEntry => nomatch isEntry
  | disabled => exact fun key entry isEntry => nomatch isEntry
  | called _ gateway call ih => exact ih.called gateway call

namespace Sample

/-- Texts without dangerous parts, each encoded as no bytes. -/
def plainTexts : Texts where
  dangerous := fun _ => false
  injection := fun _ => false
  urlScheme := fun _ => .ok "https"
  intOf := fun _ => .error "TypeError"
  shown := fun _ => ""
  encode := fun _ => .ok []
  parametersHash := fun _ _ => ""

/-- A tool without arguments. -/
def searchLaws : MCPToolDefinition where
  name := "search_laws"
  inputSchema := [("type", .text "object")]
  outputSchema := []

def lawServer : MCPServerDefinition where
  stableName := "law-mcp"
  version := "1.0"
  transportType := .fake

def lawGateway : GovernedMCPGateway where
  registry := [(lawServer, [searchLaws])]
  clients := [.fake]

def searchRequest : MCPToolCallRequest where
  serverName := "law-mcp"
  toolName := "search_laws"
  arguments := []
  context :=
    { userId := 1
      organizationId := 2
      permissions := ["mcp.execute"]
      requestId := 3
      correlationId := "call" }

/-- A call whose client does the same each time. -/
def searchCall (outcome : ClientOutcome) : ToolCall where
  request := searchRequest
  outcomes := fun _ => outcome

/-- A result without content. -/
def noLaws : MCPToolCallResult where
  content := .null
  resultSize := 0
  classification := .internal

theorem find_searchLaws (outcome : ClientOutcome) :
    lawGateway.find (searchCall outcome).request = .ok (lawServer, searchLaws) := by
  rfl

theorem asks_searchLaws (outcome : ClientOutcome) :
    Asks plainTexts lawGateway (searchCall outcome) lawServer searchLaws :=
  ⟨⟨rfl, "allow", rfl⟩, rfl, by decide⟩

end Sample

open Sample

end PolicyOS.Mcp
