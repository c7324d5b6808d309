import PolicyOS.Execution.RuntimeState

/-!
# Provider executor

Runs one handed-out step with the provider it was bound to, and turns what the
provider reports into the result of the step. The executor and the runtime do not
call each other: the runtime hands out the dispatch, and later receives the result.

A provider is an adapter, whose behaviour is its own: `invoke` is a parameter, and an
invocation that raises has no outcome.
-/

namespace PolicyOS.Execution

open Foundation

/-! ## Providers -/

/-- What kind of provider runs a step. -/
inductive ProviderKind
  | knowledge | connector | internalTool | mcp
  deriving DecidableEq, Repr

/-- One capability of a provider. -/
structure ProviderCapability where
  capabilityId : String
  enabled : Bool := true
  deriving DecidableEq

/-- What is declared of a provider. -/
structure ProviderDescriptor where
  providerId : String
  providerKind : ProviderKind
  capabilities : List ProviderCapability
  enabled : Bool := true
  deriving DecidableEq

/-- The declared providers, by identifier. -/
structure ProviderCatalog where
  providers : List ProviderDescriptor
  distinct : (providers.map (·.providerId)).Nodup := by decide
  ordered : (providers.map (·.providerId)).Pairwise (· ≤ ·) := by decide

/-- The declared provider with an identifier. -/
def ProviderCatalog.require (catalog : ProviderCatalog) (providerId : String) :
    Except ExecutionDomainError ProviderDescriptor :=
  match catalog.providers.find? (·.providerId = providerId) with
  | some provider => .ok provider
  | none =>
      .error ⟨.unknownProvider, "Provider catalog does not contain the requested provider"⟩

/-- A dispatch bound to the provider selected for it. -/
structure DispatchBinding where
  bindingId : UUID
  dispatchId : UUID
  sessionId : UUID
  executionId : UUID
  planId : UUID
  stepId : String
  capabilityId : String
  providerId : String
  idempotencyKey : String
  boundAt : DateTime
  deadline : Option DateTime := none
  classification : DataClassification
  organizationId : UUID
  validDeadline : ∀ limit ∈ deadline, boundAt < limit := by decide

/-! ## Invocations -/

/-- How an invocation ended. -/
inductive InvocationStatus
  | succeeded | failed | timedOut | cancelled
  deriving DecidableEq, Repr

/-- The data of the context an invocation is made in. -/
structure ProviderInvocationContextFields where
  sessionId : UUID
  executionId : UUID
  planId : UUID
  stepId : String
  dispatchId : UUID
  bindingId : UUID
  providerId : String
  capabilityId : String
  organizationId : UUID
  actorId : UUID
  correlationId : String
  causationId : Option String := none
  classification : DataClassification
  attempt : Nat
  issuedAt : DateTime
  boundAt : DateTime
  deadline : Option DateTime := none
  cancellationRequested : Bool := false
  expectedRuntimeRevision : Nat
  deriving DecidableEq

/-- The checks an invocation context makes on itself. -/
def ProviderInvocationContextFields.validTimes (context : ProviderInvocationContextFields) :
    Except ExecutionDomainError Unit := do
  rejectIf (context.attempt < 1) ⟨.contract, "Input should be greater than or equal to 1"⟩
  rejectIf (context.attempt > 10) ⟨.contract, "Input should be less than or equal to 10"⟩
  rejectIf (context.boundAt < context.issuedAt) ⟨.contract, "binding cannot precede dispatch"⟩
  rejectIf (∃ limit ∈ context.deadline, context.boundAt ≥ limit)
    ⟨.contract, "invocation context deadline has expired"⟩

/-- The context an invocation is made in. -/
structure ProviderInvocationContext extends ProviderInvocationContextFields where
  valid : toProviderInvocationContextFields.validTimes = .ok () := by decide

/-- Build an invocation context, raising what it checks on itself. -/
def ProviderInvocationContext.validated (fields : ProviderInvocationContextFields) :
    Except ExecutionDomainError ProviderInvocationContext :=
  buildChecked fields.validTimes fun valid =>
    { toProviderInvocationContextFields := fields, valid }

/-- A built context has the data it was built from. -/
@[simp] theorem ProviderInvocationContext.validated_eq_ok_iff
    {fields : ProviderInvocationContextFields} {context : ProviderInvocationContext} :
    ProviderInvocationContext.validated fields = .ok context ↔
      context.toProviderInvocationContextFields = fields := by
  rw [ProviderInvocationContext.validated, buildChecked_eq_ok_iff]
  constructor
  · rintro ⟨_, rfl⟩
    rfl
  · rintro rfl
    exact ⟨context.valid, rfl⟩

/-- What is asked of a provider. -/
structure ProviderInvocationRequest where
  providerId : String
  capabilityId : String
  stepId : String
  attempt : Nat
  input : JsonValue
  classification : DataClassification
  deadline : Option DateTime := none
  correlationId : String
  idempotencyKey : String
  deriving DecidableEq

/-- The data of what a provider reports. -/
structure ProviderInvocationOutcomeFields where
  providerId : String
  capabilityId : String
  stepId : String
  attempt : Nat
  status : InvocationStatus
  output : JsonValue := .null
  evidence : List EvidenceReference := []
  warnings : List String := []
  metrics : ExecutionMetrics := {}
  error : Option ExecutionError := none
  startedAt : DateTime
  completedAt : DateTime
  retryable : Bool := false
  deriving DecidableEq

/-- The checks a reported outcome makes on itself. -/
def ProviderInvocationOutcomeFields.consistent (outcome : ProviderInvocationOutcomeFields) :
    Except ExecutionDomainError Unit := do
  rejectIf (outcome.attempt < 1) ⟨.contract, "Input should be greater than or equal to 1"⟩
  rejectIf (outcome.attempt > 10) ⟨.contract, "Input should be less than or equal to 10"⟩
  rejectIf (outcome.warnings.length > 100 ∨ ∃ item ∈ outcome.warnings, item.length > 200)
    ⟨.contract, "provider warnings exceed limit"⟩
  rejectIf (outcome.completedAt < outcome.startedAt)
    ⟨.contract, "provider completion cannot precede start"⟩
  rejectIf (outcome.status = .succeeded ∧ outcome.error ≠ none)
    ⟨.contract, "successful provider outcome cannot contain an error"⟩
  rejectIf (outcome.status ≠ .succeeded ∧ outcome.error = none)
    ⟨.contract, "non-success provider outcome requires a safe error"⟩

/-- What a provider reports. -/
structure ProviderInvocationOutcome extends ProviderInvocationOutcomeFields where
  valid : toProviderInvocationOutcomeFields.consistent = .ok () := by decide
  deriving DecidableEq

/-- Build a reported outcome, raising what it checks on itself. -/
def ProviderInvocationOutcome.validated (fields : ProviderInvocationOutcomeFields) :
    Except ExecutionDomainError ProviderInvocationOutcome :=
  buildChecked fields.consistent fun valid =>
    { toProviderInvocationOutcomeFields := fields, valid }

/-- A built outcome has the data it was built from. -/
@[simp] theorem ProviderInvocationOutcome.validated_eq_ok_iff
    {fields : ProviderInvocationOutcomeFields} {outcome : ProviderInvocationOutcome} :
    ProviderInvocationOutcome.validated fields = .ok outcome ↔
      outcome.toProviderInvocationOutcomeFields = fields := by
  rw [ProviderInvocationOutcome.validated, buildChecked_eq_ok_iff]
  constructor
  · rintro ⟨_, rfl⟩
    rfl
  · rintro rfl
    exact ⟨outcome.valid, rfl⟩

/-- A trusted adapter. Its invocation answers with an outcome or raises. -/
structure ProviderAdapter where
  providerId : String
  providerKind : ProviderKind
  supportedCapabilities : List String
  invoke : ProviderInvocationRequest → ProviderInvocationContext → Option ProviderInvocationOutcome

/-- The trusted adapters, by provider. -/
structure ProviderAdapterCatalog where
  adapters : List ProviderAdapter
  distinct : (adapters.map (·.providerId)).Nodup := by decide
  ordered : (adapters.map (·.providerId)).Pairwise (· ≤ ·) := by decide
  canonical : ∀ adapter ∈ adapters, adapter.supportedCapabilities ≠ [] ∧
    adapter.supportedCapabilities.Pairwise (· < ·) := by decide

namespace ProviderAdapterCatalog

/-- The adapter of a provider. -/
def require (catalog : ProviderAdapterCatalog) (providerId : String) :
    Except ExecutionDomainError ProviderAdapter :=
  match catalog.adapters.find? (·.providerId = providerId) with
  | some adapter => .ok adapter
  | none => .error ⟨.unknownAdapter, "Selected provider has no trusted adapter"⟩

/-- Every adapter has the declared kind, and capabilities that are declared and
enabled. -/
def validateDescriptors (catalog : ProviderAdapterCatalog) (descriptors : ProviderCatalog) :
    Except ExecutionDomainError Unit :=
  checkEach (fun adapter => do
    let descriptor ← descriptors.require adapter.providerId
    let declared := (descriptor.capabilities.filter (·.enabled)).map (·.capabilityId)
    rejectIf (adapter.providerKind ≠ descriptor.providerKind)
      ⟨.adapterCapability, "Adapter and descriptor kinds do not match"⟩
    rejectIf (¬ adapter.supportedCapabilities ⊆ declared)
      ⟨.adapterCapability, "Adapter capability is absent from provider descriptor"⟩)
    catalog.adapters

end ProviderAdapterCatalog

/-! ## Checks around an invocation -/

/-- The context of an invocation. It exists only for the step that runs under exactly
this dispatch and binding. -/
def validatePreflight (binding : DispatchBinding) (dispatch : DispatchRequest)
    (session : ExecutionSession) (context : ExecutionContext) (state : ExecutionRuntimeState)
    (expectedRevision : Nat) : Except ExecutionDomainError ProviderInvocationContext := do
  rejectIf (state.revision ≠ expectedRevision ∨ session.runtimeRevision ≠ expectedRevision)
    ⟨.executorRevision, "Runtime revision does not match executor expectation"⟩
  rejectIf (session.status ≠ .running)
    ⟨.executorStepState, "Provider execution requires a running session"⟩
  rejectIf (state.status ≠ .running)
    ⟨.executorStepState, "Provider execution requires an active runtime"⟩
  let step := state.stepStates.find? (·.stepId = binding.stepId)
  rejectIf (¬ ∃ item ∈ step, item.status = .running)
    ⟨.executorStepState, "Provider execution requires a running step"⟩
  rejectIf (∃ item ∈ step, item.dispatchId ≠ some binding.dispatchId ∨
      item.attemptCount ≠ dispatch.attempt)
    ⟨.executorStepState, "Active dispatch does not match provider binding"⟩
  rejectIf (¬ (binding.dispatchId = dispatch.dispatchId ∧
      (binding.sessionId = dispatch.sessionId ∧ dispatch.sessionId = session.sessionId ∧
        session.sessionId = state.sessionId) ∧
      (binding.executionId = dispatch.executionId ∧ dispatch.executionId = session.executionId ∧
        session.executionId = context.executionId ∧ context.executionId = state.executionId) ∧
      (binding.planId = dispatch.planId ∧ dispatch.planId = session.planId ∧
        session.planId = state.planId) ∧
      binding.stepId = dispatch.stepId ∧
      binding.capabilityId = dispatch.capabilityId ∧
      (binding.organizationId = dispatch.organizationId ∧
        dispatch.organizationId = session.organizationId ∧
        session.organizationId = context.organizationId) ∧
      (dispatch.actorId = session.actorId ∧ session.actorId = context.actorId) ∧
      dispatch.correlationId = session.correlationId ∧
        session.correlationId = context.correlationId))
    ⟨.executorIdentity, "Provider execution identities are inconsistent"⟩
  requireNotLower binding.classification dispatch.classification "classification"
  requireNotLower dispatch.classification binding.classification "classification"
  ProviderInvocationContext.validated
    { sessionId := session.sessionId
      executionId := session.executionId
      planId := session.planId
      stepId := binding.stepId
      dispatchId := dispatch.dispatchId
      bindingId := binding.bindingId
      providerId := binding.providerId
      capabilityId := binding.capabilityId
      organizationId := session.organizationId
      actorId := session.actorId
      correlationId := session.correlationId
      causationId := dispatch.causationId
      classification := binding.classification
      attempt := dispatch.attempt
      issuedAt := dispatch.issuedAt
      boundAt := binding.boundAt
      deadline := binding.deadline
      cancellationRequested := state.cancellationRequested
      expectedRuntimeRevision := expectedRevision }

/-- An outcome is accepted only for the invocation it was asked for. -/
def validateInvocation (invocation : ProviderInvocationOutcomeFields) (binding : DispatchBinding)
    (dispatch : DispatchRequest) : Except ExecutionDomainError Unit :=
  rejectIf (invocation.providerId ≠ binding.providerId ∨
      invocation.capabilityId ≠ binding.capabilityId ∨
      invocation.stepId ≠ binding.stepId ∨ invocation.attempt ≠ dispatch.attempt)
    ⟨.resultMismatch, "Provider outcome does not match invocation scope"⟩

/-! ## Results -/

/-- What the executor answers. -/
structure ProviderExecutionOutcome where
  stepResult : StepResult
  providerId : String
  capabilityId : String
  startedAt : DateTime
  completedAt : DateTime
  retryable : Bool := false
  warnings : List String := []
  deriving DecidableEq

/-- The step status of an invocation status. -/
def InvocationStatus.stepStatus : InvocationStatus → StepStatus
  | succeeded => .succeeded
  | failed => .failed
  | timedOut => .timedOut
  | cancelled => .cancelled

theorem InvocationStatus.stepStatus_eq_succeeded_iff {status : InvocationStatus} :
    status.stepStatus = .succeeded ↔ status = .succeeded := by
  cases status <;> decide

/-- The data of the step result of an invocation. -/
def normalizedResult (invocation : ProviderInvocationOutcomeFields) : StepResultFields where
  stepId := invocation.stepId
  status := invocation.status.stepStatus
  startedAt := some invocation.startedAt
  completedAt := some invocation.completedAt
  output := if invocation.status.stepStatus = .succeeded then invocation.output else .null
  error := invocation.error
  attemptCount := invocation.attempt
  provider := some invocation.providerId
  evidence := invocation.evidence
  metrics := invocation.metrics

/-- The answer to an invocation. -/
def normalize (invocation : ProviderInvocationOutcomeFields) :
    Except ExecutionDomainError ProviderExecutionOutcome := do
  let result ← StepResult.validated (normalizedResult invocation)
  pure
    { stepResult := result
      providerId := invocation.providerId
      capabilityId := invocation.capabilityId
      startedAt := invocation.startedAt
      completedAt := invocation.completedAt
      retryable := invocation.retryable
      warnings := invocation.warnings }

/-- The outcome of an invocation that is not made: the execution is being cancelled, or
the deadline has passed. -/
def preflightInvocation (binding : DispatchBinding) (dispatch : DispatchRequest)
    (occurredAt : DateTime) (status : InvocationStatus) : ProviderInvocationOutcomeFields where
  providerId := binding.providerId
  capabilityId := binding.capabilityId
  stepId := binding.stepId
  attempt := dispatch.attempt
  status := status
  error := some
    { code := if status = .cancelled then "provider_cancelled" else "provider_deadline_exceeded"
      message :=
        if status = .cancelled then "Provider invocation was cancelled"
        else "Provider deadline exceeded"
      category := if status = .cancelled then .cancelled else .timeout
      retryable := status ≠ .cancelled }
  startedAt := occurredAt
  completedAt := occurredAt
  retryable := status ≠ .cancelled

/-- The answer when no invocation is made. -/
def preflightOutcome (binding : DispatchBinding) (dispatch : DispatchRequest)
    (occurredAt : DateTime) (status : InvocationStatus) :
    Except ExecutionDomainError ProviderExecutionOutcome := do
  let invocation ← ProviderInvocationOutcome.validated
    (preflightInvocation binding dispatch occurredAt status)
  normalize invocation.toProviderInvocationOutcomeFields

/-- An outcome that arrived after the deadline, with what it found discarded. The copy
is not checked again. -/
def lateInvocation (invocation : ProviderInvocationOutcomeFields) :
    ProviderInvocationOutcomeFields :=
  { invocation with
    status := .timedOut
    output := .null
    evidence := []
    error := some
      { code := "provider_deadline_exceeded"
        message := "Provider result arrived after the deadline"
        category := .timeout
        retryable := true }
    retryable := true
    warnings := invocation.warnings ++ ["late_provider_result_discarded"] }

/-- The answer to an outcome that arrived after the deadline. -/
def lateTimeout (invocation : ProviderInvocationOutcomeFields) :
    Except ExecutionDomainError ProviderExecutionOutcome :=
  normalize (lateInvocation invocation)

/-- The error of an invocation that raised. -/
def invocationFailed : ExecutionError where
  code := "provider_invocation_failed"
  message := "Provider invocation failed"
  category := .provider

/-- The outcome of an invocation that raised. -/
def failedInvocation (binding : DispatchBinding) (dispatch : DispatchRequest)
    (startedAt completedAt : DateTime) : ProviderInvocationOutcomeFields where
  providerId := binding.providerId
  capabilityId := binding.capabilityId
  stepId := binding.stepId
  attempt := dispatch.attempt
  status := .failed
  error := some invocationFailed
  startedAt := startedAt
  completedAt := completedAt

/-! ## The executor -/

/-- The executor: its adapters, each of them declared, and its clock, by its readings in
order. -/
structure DeterministicProviderExecutor where
  adapters : ProviderAdapterCatalog
  descriptors : ProviderCatalog
  clock : Nat → DateTime
  described : adapters.validateDescriptors descriptors = .ok () := by decide

/-- What is asked of the provider for a bound dispatch. -/
def invocationRequest (binding : DispatchBinding) (dispatch : DispatchRequest) :
    ProviderInvocationRequest where
  providerId := binding.providerId
  capabilityId := binding.capabilityId
  stepId := binding.stepId
  attempt := dispatch.attempt
  input := dispatch.input
  classification := binding.classification
  deadline := binding.deadline
  correlationId := dispatch.correlationId
  idempotencyKey := binding.idempotencyKey

/-- Whether the deadline of a binding has passed. -/
def DispatchBinding.expired (binding : DispatchBinding) (now : DateTime) : Prop :=
  ∃ deadline ∈ binding.deadline, now ≥ deadline

instance (binding : DispatchBinding) (now : DateTime) : Decidable (binding.expired now) :=
  inferInstanceAs (Decidable (∃ _ ∈ binding.deadline, _))

namespace DeterministicProviderExecutor

/-- What the invocation of an adapter came to, one way or the other. -/
def invoked (executor : DeterministicProviderExecutor) (adapter : ProviderAdapter)
    (binding : DispatchBinding) (dispatch : DispatchRequest)
    (context : ProviderInvocationContext) :
    Except ExecutionDomainError ProviderInvocationOutcome :=
  match adapter.invoke (invocationRequest binding dispatch) context with
  | some invocation => .ok invocation
  | none =>
      ProviderInvocationOutcome.validated
        (failedInvocation binding dispatch (executor.clock 0) (executor.clock 1))

/-- Run a bound dispatch. -/
def execute (executor : DeterministicProviderExecutor) (binding : DispatchBinding)
    (dispatch : DispatchRequest) (session : ExecutionSession) (context : ExecutionContext)
    (runtimeState : ExecutionRuntimeState) (expectedRuntimeRevision : Nat) :
    Except ExecutionDomainError ProviderExecutionOutcome := do
  let invocationContext ←
    validatePreflight binding dispatch session context runtimeState expectedRuntimeRevision
  let adapter ← executor.adapters.require binding.providerId
  let descriptor ← executor.descriptors.require binding.providerId
  rejectIf (descriptor.enabled = false)
    ⟨.adapterCapability, "Selected provider descriptor is disabled"⟩
  rejectIf (adapter.providerKind ≠ descriptor.providerKind)
    ⟨.adapterCapability, "Selected adapter kind does not match descriptor"⟩
  rejectIf (binding.capabilityId ∉ adapter.supportedCapabilities)
    ⟨.adapterCapability, "Selected adapter does not support capability"⟩
  let startedAt := executor.clock 0
  if invocationContext.cancellationRequested = true then
    preflightOutcome binding dispatch startedAt .cancelled
  else if binding.expired startedAt then
    preflightOutcome binding dispatch startedAt .timedOut
  else do
    let invocation ← executor.invoked adapter binding dispatch invocationContext
    validateInvocation invocation.toProviderInvocationOutcomeFields binding dispatch
    if binding.expired invocation.completedAt then
      lateTimeout invocation.toProviderInvocationOutcomeFields
    else normalize invocation.toProviderInvocationOutcomeFields

end DeterministicProviderExecutor

end PolicyOS.Execution
