import PolicyOS.Foundation.Outcomes
import Mathlib.Data.List.Infix
import PolicyOS.Knowledge.Providers.Cache

/-!
# Execution of provider requests

A request is authorized, its candidates are tried one after the other, and a fallback policy
says after each whether to go on. What providers, a cache and the clock do is left open: they
are operations on a state of their own.
-/

namespace PolicyOS.Knowledge.Providers

open Foundation

/-! ## Fallback -/

/-- Why there is a fallback, or none. -/
inductive ProviderFallbackReason
  | timeout | unavailable | rateLimit | disabled | capability | empty | temporal | citation | stale
  | prohibited | maximum
  deriving DecidableEq, Repr

/-- Whether another provider is tried. -/
structure ProviderFallbackDecision where
  allowed : Bool
  reason : ProviderFallbackReason
  nextProvider : Option String := none
  deriving DecidableEq, Repr

/-- How many providers are tried. -/
structure ProviderFallbackPolicy where
  maxAttempts : Nat := 3

/-- The classes of errors after which no other provider is tried. -/
def ProviderErrorClass.prohibitsFallback (errorClass : ProviderErrorClass) : Bool :=
  errorClass = .authentication || errorClass = .policyDenied || errorClass = .security

/-- The reason an error is, by its code. -/
def fallbackReason (error : Option KnowledgeProviderError) : ProviderFallbackReason :=
  let code := (error.map (·.errorClass.code)).getD ""
  if "timeout".toList <:+: code.toList then .timeout
  else if "rate".toList <:+: code.toList then .rateLimit
  else if "disabled".toList <:+: code.toList then .disabled
  else if "unsupported".toList <:+: code.toList then .capability
  else .unavailable

/-- Whether another provider is tried after an error or a response. -/
def ProviderFallbackPolicy.decide (policy : ProviderFallbackPolicy)
    (error : Option KnowledgeProviderError) (response : Option KnowledgeProviderResponse)
    (candidates attempted : List String) (allowEmpty explicitProviderOnly : Bool) :
    ProviderFallbackDecision :=
  if explicitProviderOnly ∨ (error.any (·.errorClass.prohibitsFallback)) then
    { allowed := false, reason := .prohibited }
  else if policy.maxAttempts ≤ attempted.length then { allowed := false, reason := .maximum }
  else if response.any (·.evidence.isEmpty) ∧ ¬ allowEmpty then
    { allowed := false, reason := .prohibited }
  else
    let nextProvider := candidates.find? (· ∉ attempted)
    { allowed := nextProvider.isSome
      reason := if response.isSome then .empty else fallbackReason error
      nextProvider }

/-! ## Scoring -/

/-- The confidence in evidence, in thousandths, by what can be verified of it. -/
def confidence (evidence : KnowledgeEvidence) (temporalMatch providerHealthy : Bool)
    (schemaValid : Bool := true) (corroborated : Bool := false) :
    Nat × List KnowledgeProviderWarning :=
  let cited := evidence.citation.any (· ≠ "")
  let score : Int := 250
    + (if evidence.officialSource then 200 else 0)
    + (if cited then 150 else 0)
    + (if evidence.resourceId.any (· ≠ "") then 100 else 0)
    + (if evidence.effectiveDate.isSome then 100 else 0)
    + (if temporalMatch then 50 else -200)
    + (if evidence.safeExcerpt ≠ "" then 50 else 0)
    + (if schemaValid then 50 else -200)
    + (if providerHealthy then 50 else -100)
    + (if corroborated then 50 else 0)
  ((max 0 (min 1000 score)).toNat,
    (if cited then [] else [⟨"missing_citation", "Citation is missing"⟩]) ++
      if temporalMatch then [] else [⟨"temporal_mismatch", "Evidence date does not match"⟩])

/-- The age in days, where the time of retrieval has a timezone. -/
def ageDays (now : DateTime) : Moment → Except Raised Int
  | .aware instant => .ok ((now - instant) / 86400000000)
  | .naive _ => .error .unhandled

/-! ## What is outside -/

/-- What is called of a provider. -/
inductive ProviderMethod
  | search | getResource
  deriving DecidableEq, Repr

/-- What a call of a provider comes to: a response, no response in time, a provider error, any
other error, or what no handler of errors catches. -/
inductive ProviderAnswer
  | answered (response : KnowledgeProviderResponse)
  | timedOut
  | refused (error : KnowledgeProviderError)
  | failed
  | escaped

/-- A cache. What is kept is labelled with the question it answers. -/
structure ProviderCache (Outside : Type) where
  get : Text → Outside → Except Raised (Option KnowledgeProviderResponse × String) × Outside
  put : Text → KnowledgeProviderResponse → Question → Outside → Except Raised Unit × Outside

/-- Providers, a cache and a clock. -/
structure Surroundings (Outside : Type) where
  ask : ProviderMethod → Question → KnowledgeProviderContext → Outside → ProviderAnswer × Outside
  cache : Option (ProviderCache Outside) := none
  now : Outside → DateTime × Outside

/-- What a call to a provider is done with. -/
structure ProviderExecutionContext where
  context : KnowledgeProviderContext
  preferredProvider : Option String := none
  excludedProviders : StringSet := ⟨[], by decide⟩
  providerTypePreference : List KnowledgeProviderType := []
  allowFallback : Bool := true
  allowEmptyFallback : Bool := true

/-- An audited attempt. -/
structure ProviderAuditEvent where
  organizationId : UUID
  userId : UUID
  requestId : String
  correlationId : String
  provider : String
  providerType : KnowledgeProviderType
  operation : KnowledgeProviderOperation
  capability : KnowledgeProviderCapability
  sourceTypes : StringSet
  queryHash : Text
  selectionReason : ProviderSelectionReason
  fallbackSequence : List String
  resultCount : Nat
  evidenceCount : Nat
  temporalWarningCount : Nat
  cacheStatus : String
  outcome : String
  errorCode : Option String := none
  externalTransmission : Bool
  classification : DataClassification
  policyDecision : String

/-- What an attempt came to. -/
structure Attempt where
  providerName : String
  outcome : Except Raised KnowledgeProviderResponse

/-- The state of what is outside, the audited events, and what was done: the providers that were
called and the attempts that were made. -/
structure ServiceState (Outside : Type) where
  outside : Outside
  events : List ProviderAuditEvent := []
  asked : List RegisteredKnowledgeProvider := []
  tried : List Attempt := []

variable {Outside α : Type}

/-- Code of the service. -/
abbrev Service (Outside α : Type) := EStateM Raised (ServiceState Outside) α

/-- An operation on what is outside. -/
def outside (operation : Outside → Except Raised α × Outside) : Service Outside α := do
  let result ← modifyGet fun state =>
    ((operation state.outside).1, { state with outside := (operation state.outside).2 })
  ofResult result

/-- An operation on what is outside that raises nothing. -/
def observe (operation : Outside → α × Outside) : Service Outside α :=
  modifyGet fun state =>
    ((operation state.outside).1, { state with outside := (operation state.outside).2 })

/-! ## Evidence -/

/-- How fresh evidence is, by its dates and whether it was kept. -/
def freshness (surroundings : Surroundings Outside) (evidence : KnowledgeEvidence)
    (effectiveDate : Option Date) (cacheStatus : String) (maxAgeDays : Int := 30) :
    Service Outside (String × List KnowledgeProviderWarning) :=
  if ∃ effective ∈ effectiveDate, ∃ date ∈ evidence.effectiveDate, date.after effective = true then
    pure ("mismatch", [⟨"temporal_mismatch", "Evidence was not effective"⟩])
  else if cacheStatus = "stale" then pure ("stale", [⟨"stale_cache", "Stale cache used"⟩])
  else do
    let now ← observe surroundings.now
    let age ← ofResult (ageDays now evidence.retrievedAt)
    if ¬ evidence.officialSource ∧ maxAgeDays < age then
      pure ("stale", [⟨"stale_evidence", "Evidence is old"⟩])
    else if evidence.officialSource ∧ evidence.effectiveDate.isSome then pure ("historical", [])
    else pure ("fresh", [])

/-- Evidence with its confidence, its freshness and the warnings about them. -/
def normalizeEvidence (surroundings : Surroundings Outside) (request : KnowledgeProviderRequest)
    (cacheStatus : String) (healthy : Bool) (item : KnowledgeEvidence) :
    Service Outside KnowledgeEvidence := do
  let (freshness, freshnessWarnings) ←
    freshness surroundings item request.effectiveDate cacheStatus
  let (confidence, confidenceWarnings) := confidence item (freshness ≠ "mismatch") healthy
  pure { item with
    confidence
    freshness
    warnings := (item.warnings ++ freshnessWarnings ++ confidenceWarnings).eraseDups }

/-- Evidence is normalized piece by piece. -/
def normalizeAll (surroundings : Surroundings Outside) (request : KnowledgeProviderRequest)
    (cacheStatus : String) (healthy : Bool) :
    List KnowledgeEvidence → Service Outside (List KnowledgeEvidence)
  | [] => pure []
  | item :: rest => do
      let first ← normalizeEvidence surroundings request cacheStatus healthy item
      let others ← normalizeAll surroundings request cacheStatus healthy rest
      pure (first :: others)

/-- Normalizing moves no further than reading the clock. -/
theorem within_normalizeAll {surroundings : Surroundings Outside}
    {Related : ServiceState Outside → ServiceState Outside → Prop} [Std.Refl Related]
    [IsTrans (ServiceState Outside) Related] (reads : Within Related (observe surroundings.now))
    {request : KnowledgeProviderRequest} {cacheStatus : String} {healthy : Bool}
    {evidence : List KnowledgeEvidence} :
    Within Related (normalizeAll surroundings request cacheStatus healthy evidence) := by
  have fresh : ∀ item, Within Related
      (freshness surroundings item request.effectiveDate cacheStatus) := by
    intro item
    unfold freshness
    split
    · exact within_pure
    split
    · exact within_pure
    refine reads.bind fun now => within_ofResult.bind fun age => ?_
    split_ifs <;> exact within_pure
  induction evidence with
  | nil => exact within_pure
  | cons item rest ih =>
      have first : Within Related (normalizeEvidence surroundings request cacheStatus healthy item) :=
        (fresh item).bind fun _ => within_pure
      exact first.bind fun _ => ih.bind fun _ => within_pure

/-! ## One attempt -/

/-- What is asked of providers, of which the candidates were selected, and who was tried. -/
structure AttemptContext where
  request : KnowledgeProviderRequest
  execution : ProviderExecutionContext
  selection : ProviderSelectionResult
  attempted : List String
  effectiveClassification : DataClassification

/-- A provider is enabled, and what is asked may leave if it is outside. -/
def permitted (registration : RegisteredKnowledgeProvider) (attempt : AttemptContext) :
    Except Raised Unit := do
  let isExternal := registration.providerType.isExternal
  rejectIf (registration.enabled = false)
    (.provider { errorClass := .unavailable, safeMessage := "Provider is disabled" })
  rejectIf (isExternal ∧ attempt.effectiveClassification = .restricted)
    (.provider {
      errorClass := .policyDenied
      safeMessage := "Restricted data cannot leave PolicyOS" })
  rejectIf (isExternal ∧ attempt.effectiveClassification = .confidential ∧
      attempt.execution.context.confidentialExternalAllowed = false)
    (.provider {
      errorClass := .policyDenied
      safeMessage := "Confidential provider transmission denied" })

/-- The answer a cache keeps. -/
def lookUp (surroundings : Surroundings Outside) (key : Text) :
    Service Outside (Option KnowledgeProviderResponse) :=
  match surroundings.cache with
  | none => pure none
  | some cache => do
      let (cached, status) ← outside (cache.get key)
      pure (cached.map fun value => { value with cacheStatus := status })

/-- An answer is kept. -/
def keep (surroundings : Surroundings Outside) (key : Text) (response : KnowledgeProviderResponse)
    (question : Question) : Service Outside Unit :=
  match surroundings.cache with
  | none => pure ()
  | some cache => outside (cache.put key response question)

/-- What is made of the answer to a call. -/
def ProviderAnswer.result : ProviderAnswer → Except Raised KnowledgeProviderResponse
  | .answered response => .ok response
  | .timedOut =>
      .error (.provider { errorClass := .timeout, safeMessage := "Knowledge provider timed out" })
  | .refused error => .error (.provider error)
  | .failed =>
      .error (.provider { errorClass := .unavailable, safeMessage := "Knowledge provider failed" })
  | .escaped => .error .unhandled

/-- A provider is called. -/
def callProvider (surroundings : Surroundings Outside) (question : Question)
    (context : KnowledgeProviderContext) : Service Outside KnowledgeProviderResponse := do
  modify fun state => { state with asked := state.asked ++ [question.registration] }
  let method :=
    if question.request.operation = .getResource then ProviderMethod.getResource else .search
  let answer ← observe (surroundings.ask method question context)
  ofResult answer.result

/-- The event of an attempt, with what depends on how it ended. -/
def auditEvent (hashing : KeyHashing) (registration : RegisteredKnowledgeProvider)
    (attempt : AttemptContext) (response : Option KnowledgeProviderResponse)
    (error : Option KnowledgeProviderError) : ProviderAuditEvent where
  organizationId := attempt.request.organizationId
  userId := attempt.request.userId
  requestId := attempt.request.requestId
  correlationId := attempt.request.correlationId
  provider := registration.providerName
  providerType := registration.providerType
  operation := attempt.request.operation
  capability := requiredCapability attempt.request.operation
  sourceTypes := attempt.request.sourceTypes
  queryHash := hashing.sha256 (attempt.request.query.getD [])
  selectionReason := attempt.selection.selectionReason
  fallbackSequence := attempt.attempted
  resultCount := (response.map (·.totalCount)).getD 0
  evidenceCount := (response.map (·.evidence.length)).getD 0
  temporalWarningCount := (response.map fun response =>
    ((response.evidence.flatMap (·.warnings)).filter (·.code = "temporal_mismatch")).length).getD 0
  cacheStatus := (response.map (·.cacheStatus)).getD "miss"
  outcome := match response with
    | some response => if response.partialResult then "partial" else "success"
    | none => "failure"
  errorCode := error.map (·.errorClass.code)
  externalTransmission := registration.providerType.isExternal
  classification := attempt.request.classification
  policyDecision := if error.any (·.errorClass = .policyDenied) then "deny" else "allow"

/-- An event is recorded. -/
def audit (event : ProviderAuditEvent) : Service Outside Unit :=
  modify fun state => { state with events := state.events ++ [event] }

/-- An answer that is not kept yet: a provider is called, its answer normalized, kept and
audited. -/
def answerAnew (surroundings : Surroundings Outside) (hashing : KeyHashing)
    (registration : RegisteredKnowledgeProvider) (attempt : AttemptContext) :
    Service Outside KnowledgeProviderResponse := do
  let question : Question := ⟨registration, attempt.request⟩
  let answer ← callProvider surroundings question attempt.execution.context
  let evidence ← normalizeAll surroundings attempt.request answer.cacheStatus
    (registration.healthState = .healthy) answer.evidence
  let response := { answer with evidence }
  keep surroundings (hashing.key question) response question
  audit (auditEvent hashing registration attempt (some response) none)
  pure response

/-- One provider is tried. -/
def executeOne (surroundings : Surroundings Outside) (hashing : KeyHashing)
    (registration : RegisteredKnowledgeProvider) (attempt : AttemptContext) :
    Service Outside KnowledgeProviderResponse := do
  ofResult (permitted registration attempt)
  match ← lookUp surroundings (hashing.key ⟨registration, attempt.request⟩) with
  | some cached => pure cached
  | none => answerAnew surroundings hashing registration attempt

/-! ## All attempts -/

/-- What the service is built of. -/
structure KnowledgeProviderExecutionService (Outside : Type) where
  registry : KnowledgeProviderRegistry
  fallback : ProviderFallbackPolicy := {}
  surroundings : Surroundings Outside
  hashing : KeyHashing

/-- What a request comes to. -/
structure ProviderExecutionResult where
  response : KnowledgeProviderResponse
  selection : ProviderSelectionResult
  attemptedProviders : List String
  fallbackAttempted : Bool := false
  deriving DecidableEq

/-- The more restricted of two classifications. -/
def effectiveClassification (context request : DataClassification) : DataClassification :=
  if context.rank < request.rank then request else context

/-- A request is of its context, whose member may read knowledge, and does not downgrade it. -/
def authorize (request : KnowledgeProviderRequest) (context : KnowledgeProviderContext) :
    Except Raised DataClassification := do
  let denied (safeMessage : String) : Raised :=
    .provider { errorClass := .policyDenied, safeMessage }
  rejectIf (request.organizationId ≠ context.organizationId ∨ request.userId ≠ context.userId)
    (denied "Provider request scope is invalid")
  rejectIf (context.membershipActive = false ∨ "knowledge.read" ∉ context.permissions.val)
    (denied "Knowledge provider access denied")
  rejectIf (request.classification.rank < context.classification.rank)
    (denied "Provider request classification scope is invalid")
  pure (effectiveClassification context.classification request.classification)

/-- What the candidates of a request are selected for. -/
def selectionRequest (request : KnowledgeProviderRequest) (execution : ProviderExecutionContext) :
    ProviderSelectionRequest where
  organizationId := execution.context.organizationId
  capability := requiredCapability request.operation
  sourceTypes := request.sourceTypes
  temporalQuery := request.effectiveDate.isSome || request.dateFrom.isSome || request.dateTo.isSome
  requirePersistentIngestion := request.persistResults
  preferredProvider := execution.preferredProvider
  excludedProviders := execution.excludedProviders
  providerTypePreference := execution.providerTypePreference

/-- What attempts leave: who was tried, the codes of errors, the last response and the last
error. -/
structure Leftovers where
  attempted : List String := []
  failures : List String := []
  lastResponse : Option KnowledgeProviderResponse := none
  lastError : Option KnowledgeProviderError := none

namespace KnowledgeProviderExecutionService

variable (service : KnowledgeProviderExecutionService Outside) (request : KnowledgeProviderRequest)
  (execution : ProviderExecutionContext)

/-- One provider is tried, and what came of it noted. Only provider errors are handled. -/
def tryOne (registration : RegisteredKnowledgeProvider) (attempt : AttemptContext)
    (providerName : String) :
    Service Outside (Except KnowledgeProviderError KnowledgeProviderResponse) :=
  let note (outcome : Except Raised KnowledgeProviderResponse) : Service Outside Unit :=
    modify fun state => { state with tried := state.tried ++ [⟨providerName, outcome⟩] }
  tryCatch
    (do
      let response ← executeOne service.surroundings service.hashing registration attempt
      note (.ok response)
      pure (.ok response))
    fun raised => do
      note (.error raised)
      match raised with
      | .provider error => pure (.error error)
      | .unhandled => throw .unhandled

/-- The last response is returned. Where there is none, all candidates failed. -/
def finish (selection : ProviderSelectionResult) (left : Leftovers) :
    Service Outside ProviderExecutionResult :=
  match left.lastResponse with
  | some response => pure {
      response
      selection
      attemptedProviders := left.attempted
      fallbackAttempted := 1 < left.attempted.length }
  | none => throw (.provider {
      errorClass := .fallbackExhausted
      safeMessage := "All eligible knowledge providers failed"
      correlationId := some execution.context.correlationId
      failures := left.failures })

/-- Candidates are tried until one answers with evidence or no other is to be tried. -/
def tryCandidates (selection : ProviderSelectionResult)
    (effectiveClassification : DataClassification) :
    List String → Leftovers → Service Outside ProviderExecutionResult
  | [], left => finish execution selection left
  | providerName :: rest, left => do
      let attempted := left.attempted ++ [providerName]
      let registration ← ofResult ((service.registry.get providerName
        (some execution.context.organizationId)).mapError .provider)
      let attempt : AttemptContext :=
        ⟨request, execution, selection, attempted, effectiveClassification⟩
      let goOn (decision : ProviderFallbackDecision) (left : Leftovers) :
          Service Outside ProviderExecutionResult :=
        if decision.allowed then tryCandidates selection effectiveClassification rest left
        else
          match left.lastError with
          | some error =>
              if decision.reason = .prohibited then throw (.provider error)
              else finish execution selection left
          | none => finish execution selection left
      match ← tryOne service registration attempt providerName with
      | .ok response =>
          let left := { left with attempted, lastResponse := some response }
          if response.evidence ≠ [] ∨ execution.allowEmptyFallback = false then
            finish execution selection left
          else
            goOn (service.fallback.decide none (some response) selection.names attempted
              execution.allowEmptyFallback (!execution.allowFallback)) left
      | .error error =>
          audit (auditEvent service.hashing registration attempt none (some error))
          goOn (service.fallback.decide (some error) none selection.names attempted true
              (!execution.allowFallback))
            { left with
              attempted
              failures := left.failures ++ [error.errorClass.code]
              lastError := some error }

/-- A request is authorized and its candidates are tried. -/
def execute : Service Outside ProviderExecutionResult := do
  let effectiveClassification ← ofResult (authorize request execution.context)
  let selection := select service.registry (selectionRequest request execution)
  if selection.selectedProvider = none then
    throw (.provider {
      errorClass := .unavailable
      safeMessage := selection.noProviderReason.getD "No provider is available"
      correlationId := some execution.context.correlationId })
  tryCandidates service request execution selection effectiveClassification selection.names {}

end KnowledgeProviderExecutionService

end PolicyOS.Knowledge.Providers
