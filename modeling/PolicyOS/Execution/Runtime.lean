import PolicyOS.Execution.RuntimeState

/-!
# Scheduling queries

Which steps of a plan can be dispatched at an instant, in the order they should
be. The queries are asked only of a state that was validated against the plan, so
every step and dependency has a state.
-/

namespace PolicyOS.Execution

/-- A dependency that has succeeded. -/
def dependencySucceeded (items : List RuntimeStepState) (dependency : String) : Prop :=
  (statesById items dependency).map (·.status) = some .succeeded

instance (items : List RuntimeStepState) (dependency : String) :
    Decidable (dependencySucceeded items dependency) :=
  inferInstanceAs (Decidable (_ = _))

/-- Whether every dependency of a step has succeeded. -/
def allDependenciesSucceeded (step : ExecutionStep) (items : List RuntimeStepState) : Prop :=
  ∀ dependency ∈ step.dependencies, dependencySucceeded items dependency

instance (step : ExecutionStep) (items : List RuntimeStepState) :
    Decidable (allDependenciesSucceeded step items) :=
  inferInstanceAs (Decidable (∀ _ ∈ _, _))

/-- Whether some dependency of a step has ended without success. -/
def hasFailedRequiredDependency (step : ExecutionStep)
    (states : String → Option RuntimeStepState) : Prop :=
  ∃ dependency ∈ step.dependencies, ∃ item ∈ states dependency,
    item.status ∈ RuntimeStepStatus.failedStatuses

instance (step : ExecutionStep) (states : String → Option RuntimeStepState) :
    Decidable (hasFailedRequiredDependency step states) :=
  inferInstanceAs (Decidable (∃ _ ∈ _, ∃ _ ∈ states _, _))

/-- A retry of the step is still to be waited for; without an instant, any is. -/
def awaitsRetry (item : RuntimeStepState) (now : Option DateTime) : Prop :=
  ∃ retryAt ∈ item.nextRetryAt, ∀ instant ∈ now, instant < retryAt

instance (item : RuntimeStepState) (now : Option DateTime) : Decidable (awaitsRetry item now) :=
  inferInstanceAs (Decidable (∃ _ ∈ item.nextRetryAt, ∀ _ ∈ now, _))

/-- A step can be dispatched now. -/
def isReady (items : List RuntimeStepState) (now : Option DateTime) (step : ExecutionStep) : Prop :=
  ∃ item ∈ statesById items step.stepId,
    item.status ∈ RuntimeStepStatus.waiting ∧ ¬ awaitsRetry item now ∧
      allDependenciesSucceeded step items

instance (items : List RuntimeStepState) (now : Option DateTime) (step : ExecutionStep) :
    Decidable (isReady items now step) :=
  inferInstanceAs (Decidable (∃ _ ∈ statesById items step.stepId, _))

/-- The steps that can be dispatched now, in order; none once a cancellation was
requested. -/
def readyStepIds (plan : ExecutionPlan) (state : ExecutionRuntimeState) (now : Option DateTime) :
    List String :=
  if state.cancellationRequested then []
  else (sortKeys ((plan.steps.filter (isReady state.stepStates now ·)).map
    (·.toStepLike.key))).map Prod.snd

/-- What is listed as ready is a step that can be dispatched. -/
theorem mem_readyStepIds {plan : ExecutionPlan} {state : ExecutionRuntimeState} {now : Option DateTime}
    {stepId : String} :
    stepId ∈ readyStepIds plan state now ↔
      state.cancellationRequested = false ∧
        ∃ step ∈ plan.steps, step.stepId = stepId ∧ isReady state.stepStates now step := by
  unfold readyStepIds
  split
  · rename_i requested
    simp [requested]
  · rename_i unrequested
    rw [Bool.not_eq_true] at unrequested
    simp only [List.mem_map, mem_sortKeys, List.mem_filter, decide_eq_true_eq, unrequested,
      true_and]
    constructor
    · rintro ⟨_, ⟨step, ⟨present, ready⟩, rfl⟩, rfl⟩
      exact ⟨step, present, rfl, ready⟩
    · rintro ⟨step, present, rfl, ready⟩
      exact ⟨_, ⟨step, ⟨present, ready⟩, rfl⟩, rfl⟩

end PolicyOS.Execution

/-!
# Execution runtime operations

The operations a caller drives an execution with. Each takes the current session
and state with the revision the caller expects, and answers with a transition to
the next ones or raises. A `model_copy` of the source is a record update here, so
nothing is validated that the source does not validate.
-/

namespace PolicyOS.Execution

open Foundation

/-! ## Guards -/

/-- The caller must expect the current revision. -/
def requireRevision (actual expected : Nat) : Except ExecutionDomainError Unit :=
  rejectIf (actual ≠ expected)
    ⟨.revisionConflict, "Runtime revision does not match expected revision"⟩

/-- A session and a state must be of one execution at one revision. -/
def validateSessionStateIdentity (session : ExecutionSession) (state : ExecutionRuntimeState) :
    Except ExecutionDomainError Unit :=
  rejectIf (session.runtimeRevision ≠ state.revision ∨ session.sessionId ≠ state.sessionId ∨
      session.executionId ≠ state.executionId ∨ session.planId ≠ state.planId)
    ⟨.identityMismatch, "Session and runtime state are inconsistent"⟩

/-- Session, state and plan must belong together, at the expected revision. -/
def validateStateScope (session : ExecutionSession) (plan : ExecutionPlan)
    (state : ExecutionRuntimeState) (revision : Nat) : Except ExecutionDomainError Unit := do
  requireRevision state.revision revision
  validateSessionStateIdentity session state
  rejectIf (session.executionId ≠ plan.executionId ∨ session.planId ≠ plan.planId)
    ⟨.identityMismatch, "Session and plan are inconsistent"⟩
  state.validatePlan plan

/-- The context must belong to them as well. -/
def validateRuntime (session : ExecutionSession) (context : ExecutionContext)
    (plan : ExecutionPlan) (state : ExecutionRuntimeState) (revision : Nat) :
    Except ExecutionDomainError Unit := do
  session.validateScope plan context
  validateStateScope session plan state revision

/-- Time may not move backwards. -/
def requireTransitionTime (state : ExecutionRuntimeState) (occurredAt : DateTime) :
    Except ExecutionDomainError Unit :=
  rejectIf (occurredAt < state.updatedAt)
    ⟨.invalidTransition, "Runtime transition cannot move time backwards"⟩

/-- The step of a plan with an identifier. -/
def stepOf (plan : ExecutionPlan) (stepId : String) : Except ExecutionDomainError ExecutionStep :=
  match plan.steps.find? (·.stepId = stepId) with
  | some step => .ok step
  | none => .error ⟨.identityMismatch, s!"Unknown runtime step: {stepId}"⟩

/-- The state of a step with an identifier. -/
def stateOf (state : ExecutionRuntimeState) (stepId : String) :
    Except ExecutionDomainError RuntimeStepState :=
  match state.stepStates.find? (·.stepId = stepId) with
  | some item => .ok item
  | none => .error ⟨.identityMismatch, s!"Unknown runtime step: {stepId}"⟩

/-! ## Copies of one step state -/

namespace RuntimeStepState

/-- The step is handed out for one more attempt. -/
def dispatched (item : RuntimeStepState) (attempt : Nat) (issuedAt : DateTime)
    (dispatchId : UUID) : RuntimeStepState :=
  { item with
    status := .running, attemptCount := attempt, dispatchedAt := some issuedAt,
    startedAt := some issuedAt, dispatchId := some dispatchId, nextRetryAt := none }

/-- The step succeeded. -/
def succeeded (item : RuntimeStepState) (result : StepResult) (occurredAt : DateTime) :
    RuntimeStepState :=
  { item with
    status := .succeeded, completedAt := some occurredAt, result := some result,
    lastError := none }

/-- The attempt failed and another one was scheduled. -/
def retryScheduled (item : RuntimeStepState) (error : ExecutionError)
    (nextRetryAt : Option DateTime) : RuntimeStepState :=
  { item with
    status := .blocked, dispatchedAt := none, startedAt := none, dispatchId := none,
    lastError := some error, nextRetryAt := nextRetryAt }

/-- The step failed for good. -/
def failed (item : RuntimeStepState) (error : ExecutionError) (result : StepResult)
    (occurredAt : DateTime) : RuntimeStepState :=
  { item with
    status := if result.status = .timedOut then .timedOut else .failed
    completedAt := some occurredAt, lastError := some error, result := some result }

/-- The step became ready. -/
def readied (item : RuntimeStepState) (occurredAt : DateTime) : RuntimeStepState :=
  { item with status := .ready, readyAt := some occurredAt }

/-- The step is skipped. -/
def skipped (item : RuntimeStepState) (result : StepResult) (occurredAt : DateTime) :
    RuntimeStepState :=
  { item with status := .skipped, completedAt := some occurredAt, result := some result }

/-- The step is cancelled. -/
def cancelled (item : RuntimeStepState) (result : StepResult) (occurredAt : DateTime) :
    RuntimeStepState :=
  { item with status := .cancelled, completedAt := some occurredAt, result := some result }

section Status

variable {item : RuntimeStepState} {attempt : Nat} {occurredAt : DateTime} {dispatchId : UUID}
  {result : StepResult} {error : ExecutionError} {nextRetryAt : Option DateTime}

@[simp] theorem dispatched_status :
    (item.dispatched attempt occurredAt dispatchId).status = .running := rfl

@[simp] theorem succeeded_status : (item.succeeded result occurredAt).status = .succeeded := rfl

@[simp] theorem retryScheduled_status :
    (item.retryScheduled error nextRetryAt).status = .blocked := rfl

@[simp] theorem failed_status :
    (item.failed error result occurredAt).status =
      if result.status = .timedOut then .timedOut else .failed := rfl

@[simp] theorem readied_status : (item.readied occurredAt).status = .ready := rfl

@[simp] theorem skipped_status : (item.skipped result occurredAt).status = .skipped := rfl

@[simp] theorem cancelled_status : (item.cancelled result occurredAt).status = .cancelled := rfl

end Status

end RuntimeStepState

/-! ## Shared pieces of the operations -/

/-- The step state after a replacement of the one with its identifier. -/
def replacedBy (replacement item : RuntimeStepState) : RuntimeStepState :=
  if item.stepId = replacement.stepId then replacement else item

/-- Replace one step state, at the next revision. -/
def replaceState (state : ExecutionRuntimeState) (replacement : RuntimeStepState) (revision : Nat)
    (occurredAt : DateTime) : ExecutionRuntimeState :=
  { state with
    stepStates := state.stepStates.map (replacedBy replacement)
    revision := revision
    updatedAt := occurredAt }

/-- The step state after a refresh that found these steps ready. -/
def refreshed (ready : List String) (occurredAt : DateTime) (item : RuntimeStepState) :
    RuntimeStepState :=
  if item.stepId ∈ ready ∧ item.status ≠ .ready then item.readied occurredAt else item

/-- Mark the steps that have become ready, and list them. -/
def refreshReady (plan : ExecutionPlan) (state : ExecutionRuntimeState) (occurredAt : DateTime) :
    ExecutionRuntimeState × List String :=
  let ready := readyStepIds plan state (some occurredAt)
  ({ state with stepStates := state.stepStates.map (refreshed ready occurredAt) },
    (state.stepStates.filter fun item => item.stepId ∈ ready ∧ item.status ≠ .ready).map
      (·.stepId))

/-- The result of a skipped step. -/
def skippedResult (item : RuntimeStepState) (occurredAt : DateTime) : StepResult where
  stepId := item.stepId
  status := .skipped
  startedAt := some occurredAt
  completedAt := some occurredAt
  attemptCount := item.attemptCount
  consistent := by
    simp [StepResultFields.consistentStatus, rejectIf, Bind.bind, Except.bind]

/-- Visit one step of the plan: skip it if it waits on a step that ended without
success. -/
def propagated (plan : ExecutionPlan) (occurredAt : DateTime)
    (states : String → Option RuntimeStepState) (stepId : String) : Option RuntimeStepState :=
  match states stepId, plan.steps.find? (·.stepId = stepId) with
  | some item, some step =>
      if item.status ∈ RuntimeStepStatus.terminal ∨ item.status = .running then some item
      else if hasFailedRequiredDependency step states then
        some (item.skipped (skippedResult item occurredAt) occurredAt)
      else some item
  | unknown, _ => unknown

/-- Skip, in topological order, every step that can no longer run. -/
def propagateFailedDependencies (plan : ExecutionPlan) (state : ExecutionRuntimeState)
    (occurredAt : DateTime) : Except ExecutionDomainError ExecutionRuntimeState := do
  let order ← plan.topologicalStepIds
  let states := sweep (propagated plan occurredAt) order (statesById state.stepStates)
  pure
    { state with
      stepStates := state.stepStates.map fun item => (states item.stepId).getD item }

/-- The result of a terminal state, with the results of all its steps. -/
def buildExecutionResult (plan : ExecutionPlan) (state : ExecutionRuntimeState)
    (finalOutput : JsonValue) (completedAt : DateTime) :
    Except ExecutionDomainError ExecutionResult := do
  state.validatePlan plan
  rejectIf (state.status ∉ ExecutionStatus.terminal)
    ⟨.invalidTransition, "Execution result requires terminal runtime"⟩
  let results := state.stepStates.filterMap (·.result)
  rejectIf (results.length ≠ plan.steps.length)
    ⟨.invalidTransition, "Terminal runtime is missing step results"⟩
  ExecutionResult.validated
    { executionId := plan.executionId
      planId := plan.planId
      status := state.status
      stepResults := results
      finalOutput := finalOutput
      startedAt := state.startedAt
      completedAt := some completedAt
      error := state.failure }

/-- The state is of a required step of the plan. -/
def isRequired (plan : ExecutionPlan) (item : RuntimeStepState) : Prop :=
  ∃ step ∈ plan.steps.find? (·.stepId = item.stepId), step.required = true

instance (plan : ExecutionPlan) (item : RuntimeStepState) : Decidable (isRequired plan item) :=
  inferInstanceAs (Decidable (∃ _ ∈ plan.steps.find? _, _))

/-- Some required step has one of these statuses. -/
def someRequired (plan : ExecutionPlan) (items : List RuntimeStepState)
    (statuses : List RuntimeStepStatus) : Prop :=
  ∃ item ∈ items, isRequired plan item ∧ item.status ∈ statuses

instance (plan : ExecutionPlan) (items : List RuntimeStepState)
    (statuses : List RuntimeStepStatus) : Decidable (someRequired plan items statuses) :=
  inferInstanceAs (Decidable (∃ _ ∈ items, _))

/-- How an execution whose steps have all ended has ended. -/
def finalStatus (plan : ExecutionPlan) (items : List RuntimeStepState) : ExecutionStatus :=
  if someRequired plan items [.timedOut] then .timedOut
  else if someRequired plan items [.failed, .cancelled, .skipped] then .failed
  else if ∃ item ∈ items, item.status ≠ .succeeded then .partial_
  else .succeeded

/-- The error of an execution that failed without one of its own. -/
def requiredStepFailed : ExecutionError where
  code := "required_step_failed"
  message := "A required execution step failed"
  category := .internal

/-- The session status of a final execution status. -/
def sessionStatusOf : ExecutionStatus → SessionStatus
  | .timedOut => .timedOut
  | .failed => .failed
  | _ => .completed

/-- State, session and, when the execution has ended, its result. -/
structure Finish where
  state : ExecutionRuntimeState
  session : ExecutionSession
  result : Option ExecutionResult

/-- End the execution if all its steps have ended. -/
def finishIfTerminal (plan : ExecutionPlan) (state : ExecutionRuntimeState)
    (session : ExecutionSession) (occurredAt : DateTime) (failure : Option ExecutionError) :
    Except ExecutionDomainError Finish :=
  if ∀ item ∈ state.stepStates, item.status ∈ RuntimeStepStatus.terminal then do
    let status := finalStatus plan state.stepStates
    let failure :=
      if status ∈ [ExecutionStatus.failed, .timedOut] ∧ failure = none then
        some requiredStepFailed
      else failure
    let state :=
      { state with status := status, completedAt := some occurredAt, failure := failure }
    let session :=
      { session with status := sessionStatusOf status, completedAt := some occurredAt }
    let result ← buildExecutionResult plan state .null occurredAt
    pure ⟨state, session, some result⟩
  else .ok ⟨state, session, none⟩

/-- The session after a transition. Its completion time is the given one. -/
def updateSession (session : ExecutionSession) (revision : Nat) (occurredAt : DateTime)
    (completedAt : Option DateTime) : ExecutionSession :=
  { session with
    runtimeRevision := revision, updatedAt := occurredAt, completedAt := completedAt }

/-- An event of a session. -/
def event (eventType : RuntimeEventType) (session : ExecutionSession) (revision : Nat)
    (occurredAt : DateTime) (stepId : Option String) (metadata : JsonValue) : RuntimeEvent where
  eventType := eventType
  sessionId := session.sessionId
  executionId := session.executionId
  planId := session.planId
  stepId := stepId
  occurredAt := occurredAt
  correlationId := session.correlationId
  revision := revision
  metadata := metadata

/-- An event about one step. -/
def stepEvent (eventType : RuntimeEventType) (session : ExecutionSession) (revision : Nat)
    (occurredAt : DateTime) (stepId : String) : RuntimeEvent :=
  event eventType session revision occurredAt (some stepId) (.object [])

/-- An event about the whole execution. -/
def executionEvent (eventType : RuntimeEventType) (session : ExecutionSession) (revision : Nat)
    (occurredAt : DateTime) : RuntimeEvent :=
  event eventType session revision occurredAt none (.object [])

@[simp] theorem stepEvent_eventType {eventType : RuntimeEventType} {session : ExecutionSession}
    {revision : Nat} {occurredAt : DateTime} {stepId : String} :
    (stepEvent eventType session revision occurredAt stepId).eventType = eventType := rfl

@[simp] theorem executionEvent_eventType {eventType : RuntimeEventType}
    {session : ExecutionSession} {revision : Nat} {occurredAt : DateTime} :
    (executionEvent eventType session revision occurredAt).eventType = eventType := rfl

/-! ## The operations -/

/-- The first state of a step. -/
def initialStepState (startedAt : DateTime) (step : ExecutionStep) : RuntimeStepState where
  stepId := step.stepId
  status := if step.dependencies = [] then .ready else .blocked
  readyAt := if step.dependencies = [] then some startedAt else none

/-- One step is not after another in the plan's own order. -/
def notAfterInPlan (left right : ExecutionStep) : Prop :=
  left.toStepLike.key.notAfter right.toStepLike.key

instance (left right : ExecutionStep) : Decidable (notAfterInPlan left right) :=
  inferInstanceAs (Decidable (StepKey.notAfter _ _))

/-- Start the execution of a created session. -/
def initializeRuntime (session : ExecutionSession) (plan : ExecutionPlan)
    (context : ExecutionContext) (startedAt : DateTime) (expectedRevision : Nat) :
    Except ExecutionDomainError RuntimeTransition := do
  requireRevision session.runtimeRevision expectedRevision
  session.validateScope plan context
  rejectIf (startedAt < session.createdAt)
    ⟨.invalidTransition, "Runtime cannot start before session creation"⟩
  rejectIf (session.status ≠ .created)
    ⟨.invalidTransition, "Only a created session can initialize"⟩
  let revision := expectedRevision + 1
  let states := (plan.steps.insertionSort notAfterInPlan).map (initialStepState startedAt)
  checkEach (·.validState) states
  let newSession :=
    { session with
      status := .running, startedAt := some startedAt, updatedAt := startedAt
      runtimeRevision := revision }
  let state : ExecutionRuntimeState :=
    { sessionId := session.sessionId
      executionId := session.executionId
      planId := session.planId
      revision := revision
      status := .running
      stepStates := states
      startedAt := startedAt
      updatedAt := startedAt }
  state.snapshotInvariants
  RuntimeTransition.validated
    { previousRevision := expectedRevision
      state := state
      session := newSession
      events := executionEvent .executionStarted newSession revision startedAt ::
        (readyStepIds plan state (some startedAt)).map
          (stepEvent .stepReady newSession revision startedAt) }

/-- Hand out one ready step for one attempt. -/
def createDispatchRequest (session : ExecutionSession) (context : ExecutionContext)
    (plan : ExecutionPlan) (state : ExecutionRuntimeState) (stepId : String) (dispatchId : UUID)
    (issuedAt : DateTime) (deadline : Option DateTime) (expectedRevision : Nat) :
    Except ExecutionDomainError RuntimeTransition := do
  validateRuntime session context plan state expectedRevision
  requireTransitionTime state issuedAt
  rejectIf (state.status ∈ ExecutionStatus.terminal)
    ⟨.alreadyTerminal, "Terminal execution cannot dispatch"⟩
  rejectIf (state.cancellationRequested = true ∨ session.status = .cancelling)
    ⟨.cancellationConflict, "Cancelling execution cannot dispatch"⟩
  let step ← stepOf plan stepId
  rejectIf (∃ limit ∈ deadline, limit > issuedAt + step.timeoutSeconds.val * 1000000)
    ⟨.invalidTransition, "Dispatch deadline exceeds step timeout"⟩
  rejectIf (∃ sessionLimit ∈ session.deadline,
      deadline = none ∨ ∃ limit ∈ deadline, limit > sessionLimit)
    ⟨.invalidTransition, "Dispatch deadline exceeds execution deadline"⟩
  let current ← stateOf state stepId
  rejectIf (current.status = .running)
    ⟨.dispatchConflict, "Step already has an active dispatch"⟩
  rejectIf (stepId ∉ readyStepIds plan state (some issuedAt))
    ⟨.stepNotReady, s!"Step is not ready: {stepId}"⟩
  let attempt := current.attemptCount + 1
  rejectIf (attempt > step.retryPolicy.maxAttempts)
    ⟨.dispatchConflict, "Step attempt exceeds retry policy"⟩
  let request ← DispatchRequest.validated
    { dispatchId := dispatchId
      sessionId := session.sessionId
      executionId := session.executionId
      planId := plan.planId
      stepId := step.stepId
      capabilityId := step.target
      input := step.input
      classification := step.classification
      organizationId := session.organizationId
      actorId := session.actorId
      correlationId := session.correlationId
      causationId := context.causationId
      attempt := attempt
      timeoutSeconds := step.timeoutSeconds
      deadline := deadline
      issuedAt := issuedAt }
  let revision := expectedRevision + 1
  let newSession := updateSession session revision issuedAt none
  RuntimeTransition.validated
    { previousRevision := expectedRevision
      state := replaceState state (current.dispatched attempt issuedAt dispatchId) revision issuedAt
      session := newSession
      events := [event .stepDispatched newSession revision issuedAt (some stepId)
        (.object [("attempt", .integer attempt)])]
      dispatchRequest := some request }

/-- What a successful completion changes. -/
def completeRunning (session : ExecutionSession) (plan : ExecutionPlan)
    (state : ExecutionRuntimeState) (current : RuntimeStepState) (result : StepResult)
    (occurredAt : DateTime) (expectedRevision : Nat) :
    Except ExecutionDomainError RuntimeTransition := do
  let revision := expectedRevision + 1
  let replaced := replaceState state (current.succeeded result occurredAt) revision occurredAt
  let ready := refreshReady plan replaced occurredAt
  let finish ← finishIfTerminal plan ready.1 session occurredAt none
  let newSession := updateSession finish.session revision occurredAt finish.session.completedAt
  RuntimeTransition.validated
    { previousRevision := expectedRevision
      state := finish.state
      session := newSession
      events := stepEvent .stepSucceeded newSession revision occurredAt result.stepId ::
        ready.2.map (stepEvent .stepReady newSession revision occurredAt) ++
        finish.result.toList.map fun _ =>
          executionEvent .executionCompleted newSession revision occurredAt
      executionResult := finish.result }

/-- Accept the successful result of a running step, or repeat the answer to one
already accepted. -/
def completeStep (session : ExecutionSession) (plan : ExecutionPlan)
    (state : ExecutionRuntimeState) (result : StepResult) (occurredAt : DateTime)
    (expectedRevision : Nat) : Except ExecutionDomainError RuntimeTransition := do
  validateStateScope session plan state expectedRevision
  requireTransitionTime state occurredAt
  let current ← stateOf state result.stepId
  if current.status ∈ RuntimeStepStatus.terminal then
    if current.result = some result then
      RuntimeTransition.validated
        { previousRevision := expectedRevision
          state := state
          session := session
          idempotent := true }
    else .error ⟨.completionConflict, "Step already has a different terminal result"⟩
  else do
    rejectIf (current.status ≠ .running)
      ⟨.stepNotRunning, s!"Step is not running: {result.stepId}"⟩
    rejectIf (result.status ≠ .succeeded)
      ⟨.invalidTransition, "complete_step requires a successful result"⟩
    rejectIf (result.startedAt ≠ current.startedAt ∨ result.completedAt ≠ some occurredAt)
      ⟨.completionConflict, "Step result timestamps do not match active attempt"⟩
    rejectIf (result.attemptCount ≠ current.attemptCount)
      ⟨.completionConflict, "Step result attempt does not match runtime attempt"⟩
    completeRunning session plan state current result occurredAt expectedRevision

/-- Whether to attempt a failed step again, and after how long. The delay is the
truncated product of the initial delay and a power of the multiplier, both
floating-point, and is a parameter. -/
def decideRetry (scaledDelay : RetryPolicy → Nat → Nat) (step : ExecutionStep)
    (currentAttempt : Nat) (error : ExecutionError) (now : DateTime)
    (executionDeadline : Option DateTime) (cancellationRequested : Bool) : RetryDecision :=
  if cancellationRequested = true then { outcome := .cancelled }
  else if ∃ deadline ∈ executionDeadline, now ≥ deadline then { outcome := .deadlineExceeded }
  else if error.retryable = false then { outcome := .notRetryable }
  else if currentAttempt ≥ step.retryPolicy.maxAttempts then { outcome := .exhausted }
  else
    { outcome := .retry
      delayMs :=
        ⟨min (scaledDelay step.retryPolicy (currentAttempt - 1)) step.retryPolicy.maxDelayMs,
          (min_le_right _ _).trans step.retryPolicy.bounds.2.2.1⟩ }

/-- Schedule another attempt of a failed step. -/
def retryRunning (session : ExecutionSession) (state : ExecutionRuntimeState)
    (step : ExecutionStep) (current : RuntimeStepState) (error : ExecutionError)
    (occurredAt : DateTime) (retryDecision : RetryDecision) (nextRetryAt : Option DateTime)
    (expectedRevision : Nat) : Except ExecutionDomainError RuntimeTransition := do
  rejectIf (current.attemptCount ≥ step.retryPolicy.maxAttempts ∨ nextRetryAt = none)
    ⟨.invalidTransition, "Retry transition is inconsistent"⟩
  rejectIf (nextRetryAt ≠ some (occurredAt + retryDecision.delayMs.val * 1000))
    ⟨.invalidTransition, "Retry timestamp does not match decision delay"⟩
  let revision := expectedRevision + 1
  let newSession := updateSession session revision occurredAt none
  RuntimeTransition.validated
    { previousRevision := expectedRevision
      state := replaceState state (current.retryScheduled error nextRetryAt) revision occurredAt
      session := newSession
      events := [stepEvent .stepRetryScheduled newSession revision occurredAt current.stepId] }

/-- The event of an execution that ended with a failing step. -/
def failureEvent (result : ExecutionResult) : RuntimeEventType :=
  if result.status = .timedOut then .executionTimedOut else .executionFailed

/-- End a failed step, and with it every step that depends on it. -/
def failRunning (session : ExecutionSession) (plan : ExecutionPlan)
    (state : ExecutionRuntimeState) (current : RuntimeStepState) (error : ExecutionError)
    (occurredAt : DateTime) (expectedRevision : Nat) :
    Except ExecutionDomainError RuntimeTransition := do
  let revision := expectedRevision + 1
  let result ← StepResult.validated
    { stepId := current.stepId
      status := if error.category = .timeout then .timedOut else .failed
      startedAt := current.startedAt
      completedAt := some occurredAt
      error := some error
      attemptCount := current.attemptCount }
  let replaced := replaceState state (current.failed error result occurredAt) revision occurredAt
  let settled ← propagateFailedDependencies plan replaced occurredAt
  let finish ← finishIfTerminal plan settled session occurredAt (some error)
  let newSession := updateSession finish.session revision occurredAt finish.session.completedAt
  RuntimeTransition.validated
    { previousRevision := expectedRevision
      state := finish.state
      session := newSession
      events := stepEvent .stepFailed newSession revision occurredAt current.stepId ::
        finish.result.toList.map fun result =>
          executionEvent (failureEvent result) newSession revision occurredAt
      executionResult := finish.result }

/-- Accept the failure of a running step. -/
def failStep (session : ExecutionSession) (plan : ExecutionPlan) (state : ExecutionRuntimeState)
    (stepId : String) (error : ExecutionError) (occurredAt : DateTime)
    (retryDecision : RetryDecision) (nextRetryAt : Option DateTime) (expectedRevision : Nat) :
    Except ExecutionDomainError RuntimeTransition := do
  validateStateScope session plan state expectedRevision
  requireTransitionTime state occurredAt
  let current ← stateOf state stepId
  let step ← stepOf plan stepId
  rejectIf (current.status ≠ .running) ⟨.stepNotRunning, s!"Step is not running: {stepId}"⟩
  if retryDecision.retry then
    retryRunning session state step current error occurredAt retryDecision nextRetryAt
      expectedRevision
  else failRunning session plan state current error occurredAt expectedRevision

/-- Ask for the execution to be cancelled. -/
def requestCancellation (session : ExecutionSession) (state : ExecutionRuntimeState)
    (requestedAt : DateTime) (expectedRevision : Nat) :
    Except ExecutionDomainError RuntimeTransition := do
  requireRevision state.revision expectedRevision
  validateSessionStateIdentity session state
  requireTransitionTime state requestedAt
  rejectIf (state.status ∈ ExecutionStatus.terminal)
    ⟨.alreadyTerminal, "Terminal execution cannot request cancellation"⟩
  if state.cancellationRequested = true then
    RuntimeTransition.validated
      { previousRevision := expectedRevision
        state := state
        session := session
        idempotent := true }
  else
    let revision := expectedRevision + 1
    let newSession :=
      { session with
        status := .cancelling, cancellationRequestedAt := some requestedAt
        updatedAt := requestedAt, runtimeRevision := revision }
    RuntimeTransition.validated
      { previousRevision := expectedRevision
        state :=
          { state with
            revision := revision, updatedAt := requestedAt, cancellationRequested := true }
        session := newSession
        events := [executionEvent .cancellationRequested newSession revision requestedAt] }

/-- Cancel one step that has not ended. -/
def cancelStep (occurredAt : DateTime) (item : RuntimeStepState) :
    Except ExecutionDomainError RuntimeStepState :=
  if item.status ∈ RuntimeStepStatus.terminal then .ok item
  else do
    let result ← StepResult.validated
      { stepId := item.stepId
        status := .cancelled
        startedAt := some (item.startedAt.getD occurredAt)
        completedAt := some occurredAt
        attemptCount := item.attemptCount }
    pure (item.cancelled result occurredAt)

/-- Cancel every step that has not ended, and the execution. -/
def applyCancellation (session : ExecutionSession) (plan : ExecutionPlan)
    (state : ExecutionRuntimeState) (occurredAt : DateTime) (expectedRevision : Nat) :
    Except ExecutionDomainError RuntimeTransition := do
  validateStateScope session plan state expectedRevision
  requireTransitionTime state occurredAt
  rejectIf (state.status ∈ ExecutionStatus.terminal)
    ⟨.alreadyTerminal, "Terminal execution cannot apply cancellation"⟩
  rejectIf (state.cancellationRequested = false)
    ⟨.cancellationConflict, "Cancellation was not requested"⟩
  let revision := expectedRevision + 1
  let states ← collectEach (cancelStep occurredAt) state.stepStates
  let newState :=
    { state with
      revision := revision, status := .cancelled, stepStates := states
      updatedAt := occurredAt, completedAt := some occurredAt }
  let newSession :=
    { session with
      status := .cancelled, updatedAt := occurredAt, completedAt := some occurredAt
      runtimeRevision := revision }
  let result ← buildExecutionResult plan newState .null occurredAt
  RuntimeTransition.validated
    { previousRevision := expectedRevision
      state := newState
      session := newSession
      events := [executionEvent .executionCancelled newSession revision occurredAt]
      executionResult := some result }

end PolicyOS.Execution
