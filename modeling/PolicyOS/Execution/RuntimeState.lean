import PolicyOS.Execution.Domain

/-!
# Execution runtime state

Sessions, step states and whole runtime states, with the checks their contracts
make at construction. The operations copy these values with replaced fields and
do not run the checks again, so here the checks are functions of plain data: that
they hold after every operation is for a later module to show.
-/

namespace PolicyOS.Execution

open Foundation

/-- Where a session stands. -/
inductive SessionStatus
  | created | running | cancelling | completed | failed | cancelled | timedOut
  deriving DecidableEq, Repr

/-- Where one step of a running execution stands. -/
inductive RuntimeStepStatus
  | pending | blocked | ready | running | succeeded | failed | skipped | cancelled | timedOut
  deriving DecidableEq, Repr

/-- What happened in a transition. -/
inductive RuntimeEventType
  | executionStarted | stepReady | stepDispatched | stepSucceeded | stepFailed
  | stepRetryScheduled | cancellationRequested | executionCompleted | executionFailed
  | executionCancelled | executionTimedOut
  deriving DecidableEq, Repr

/-- What is decided about another attempt. -/
inductive RetryOutcome
  | retry | stop | notRetryable | exhausted | cancelled | deadlineExceeded
  deriving DecidableEq, Repr

/-- Session statuses that end a session. -/
def SessionStatus.terminal : List SessionStatus := [completed, failed, cancelled, timedOut]

namespace RuntimeStepStatus

/-- Step statuses that end a step. -/
def terminal : List RuntimeStepStatus := [succeeded, failed, skipped, cancelled, timedOut]

/-- Step statuses from which a step can still become ready. -/
def waiting : List RuntimeStepStatus := [pending, blocked, ready]

/-- Ways to end without success. -/
def failedStatuses : List RuntimeStepStatus := [failed, skipped, cancelled, timedOut]

theorem waiting_or_running_or_terminal (status : RuntimeStepStatus) :
    status ∈ waiting ∨ status = running ∨ status ∈ terminal := by
  cases status <;> decide

theorem mem_terminal_iff (status : RuntimeStepStatus) :
    status ∈ terminal ↔ status = succeeded ∨ status ∈ failedStatuses := by
  cases status <;> decide

theorem not_terminal_of_waiting {status : RuntimeStepStatus} (waits : status ∈ waiting) :
    status ∉ terminal := by
  cases status <;> revert waits <;> decide

end RuntimeStepStatus

/-- One execution's session. -/
structure ExecutionSession where
  sessionId : UUID
  executionId : UUID
  planId : UUID
  organizationId : UUID
  actorId : UUID
  correlationId : String
  classification : DataClassification
  status : SessionStatus := .created
  createdAt : DateTime
  startedAt : Option DateTime := none
  updatedAt : DateTime
  completedAt : Option DateTime := none
  cancellationRequestedAt : Option DateTime := none
  deadline : Option DateTime := none
  runtimeRevision : Nat := 0
  deriving DecidableEq

namespace ExecutionSession

/-- The checks a session makes on itself. -/
def lifecycle (session : ExecutionSession) : Except ExecutionDomainError Unit := do
  rejectIf (session.updatedAt < session.createdAt)
    ⟨.contract, "session update cannot precede creation"⟩
  rejectIf (session.status = .created ∧ session.startedAt ≠ none)
    ⟨.contract, "created session cannot have started_at"⟩
  rejectIf (session.status ≠ .created ∧ session.startedAt = none)
    ⟨.contract, "active or terminal session requires started_at"⟩
  rejectIf (session.status ∈ SessionStatus.terminal ∧ session.completedAt = none)
    ⟨.contract, "terminal session requires completed_at"⟩
  rejectIf (session.status ∉ SessionStatus.terminal ∧ session.completedAt ≠ none)
    ⟨.contract, "non-terminal session cannot have completed_at"⟩
  rejectIf (∃ startedAt ∈ session.startedAt, ∃ completedAt ∈ session.completedAt,
      completedAt < startedAt)
    ⟨.contract, "session completion cannot precede start"⟩
  rejectIf (∃ requestedAt ∈ session.cancellationRequestedAt, requestedAt < session.createdAt)
    ⟨.contract, "cancellation cannot precede session creation"⟩

/-- A session is used only with its own plan and context, classified no lower
than the context and no higher than the plan. -/
def validateScope (session : ExecutionSession) (plan : ExecutionPlan) (context : ExecutionContext) :
    Except ExecutionDomainError Unit := do
  rejectIf (session.executionId ≠ plan.executionId ∨ session.executionId ≠ context.executionId ∨
      session.planId ≠ plan.planId ∨ session.organizationId ≠ context.organizationId ∨
      session.actorId ≠ context.actorId ∨ session.correlationId ≠ context.correlationId)
    ⟨.identityMismatch, "Runtime session identity is inconsistent"⟩
  requireNotLower session.classification context.classification "classification"
  requireNotLower plan.classification session.classification "classification"

end ExecutionSession

/-- One step of a running execution. -/
structure RuntimeStepState where
  stepId : String
  status : RuntimeStepStatus
  attemptCount : Nat := 0
  readyAt : Option DateTime := none
  dispatchedAt : Option DateTime := none
  startedAt : Option DateTime := none
  completedAt : Option DateTime := none
  lastError : Option ExecutionError := none
  result : Option StepResult := none
  nextRetryAt : Option DateTime := none
  dispatchId : Option UUID := none
  deriving DecidableEq

/-- The checks a step state makes on itself. -/
def RuntimeStepState.validState (item : RuntimeStepState) : Except ExecutionDomainError Unit := do
  rejectIf (item.status ∈ RuntimeStepStatus.waiting ∧ item.result ≠ none)
    ⟨.contract, "non-running runtime step cannot contain a result"⟩
  rejectIf (item.status = .running ∧
      (item.startedAt = none ∨ item.dispatchId = none ∨ item.attemptCount < 1))
    ⟨.contract, "running step requires dispatch, start time, and attempt"⟩
  rejectIf (item.status ∈ RuntimeStepStatus.terminal ∧ item.completedAt = none)
    ⟨.contract, "terminal runtime step requires completed_at"⟩
  rejectIf (item.status = .succeeded ∧ ¬ ∃ result ∈ item.result, result.status = .succeeded)
    ⟨.contract, "succeeded runtime step requires successful result"⟩
  rejectIf (item.status ∈ [.failed, .timedOut] ∧ item.lastError = none)
    ⟨.contract, "failed runtime step requires typed error"⟩

/-- One snapshot of a running execution. -/
structure ExecutionRuntimeState where
  sessionId : UUID
  executionId : UUID
  planId : UUID
  revision : Nat
  status : ExecutionStatus
  stepStates : List RuntimeStepState
  startedAt : DateTime
  updatedAt : DateTime
  completedAt : Option DateTime := none
  cancellationRequested : Bool := false
  failure : Option ExecutionError := none
  deriving DecidableEq

namespace ExecutionRuntimeState

/-- The checks a runtime state makes on itself. -/
def snapshotInvariants (state : ExecutionRuntimeState) : Except ExecutionDomainError Unit := do
  rejectIf (¬ (state.stepStates.map (·.stepId)).Nodup)
    ⟨.contract, "runtime state contains duplicate steps"⟩
  rejectIf (state.status ∈ ExecutionStatus.terminal ∧ state.completedAt = none)
    ⟨.contract, "terminal runtime requires completed_at"⟩
  rejectIf (state.status ∉ ExecutionStatus.terminal ∧ state.completedAt ≠ none)
    ⟨.contract, "non-terminal runtime cannot have completed_at"⟩
  rejectIf (state.status ∈ ExecutionStatus.terminal ∧
      ∃ item ∈ state.stepStates, item.status = .running)
    ⟨.contract, "terminal runtime cannot contain running steps"⟩

/-- A state is used only with the plan it was made for. -/
def validatePlan (state : ExecutionRuntimeState) (plan : ExecutionPlan) :
    Except ExecutionDomainError Unit := do
  rejectIf (state.executionId ≠ plan.executionId ∨ state.planId ≠ plan.planId)
    ⟨.identityMismatch, "Runtime state identity does not match plan"⟩
  rejectIf (¬ (state.stepStates.map (·.stepId) ⊆ plan.stepIds ∧
      plan.stepIds ⊆ state.stepStates.map (·.stepId)))
    ⟨.identityMismatch, "Runtime steps do not match plan steps"⟩

end ExecutionRuntimeState

/-- The step states by their identifiers; a later one replaces an earlier one. -/
def statesById (items : List RuntimeStepState) (stepId : String) : Option RuntimeStepState :=
  items.reverse.find? (·.stepId = stepId)

/-- One thing that happened. -/
structure RuntimeEvent where
  eventType : RuntimeEventType
  sessionId : UUID
  executionId : UUID
  planId : UUID
  stepId : Option String := none
  occurredAt : DateTime
  correlationId : String
  revision : Nat
  metadata : JsonValue := .object []
  deriving DecidableEq

/-- The data of a dispatch request. -/
structure DispatchRequestFields where
  dispatchId : UUID
  sessionId : UUID
  executionId : UUID
  planId : UUID
  stepId : String
  capabilityId : String
  input : JsonValue
  classification : DataClassification
  organizationId : UUID
  actorId : UUID
  correlationId : String
  causationId : Option String := none
  attempt : Nat
  timeoutSeconds : {seconds : Nat // 1 ≤ seconds ∧ seconds ≤ 600}
  deadline : Option DateTime := none
  issuedAt : DateTime
  deriving DecidableEq

/-- The checks a dispatch request makes on itself. -/
def DispatchRequestFields.validDeadline (request : DispatchRequestFields) :
    Except ExecutionDomainError Unit := do
  rejectIf (request.attempt < 1) ⟨.contract, "Input should be greater than or equal to 1"⟩
  rejectIf (request.attempt > 10) ⟨.contract, "Input should be less than or equal to 10"⟩
  rejectIf (∃ deadline ∈ request.deadline, deadline < request.issuedAt)
    ⟨.contract, "dispatch deadline cannot precede issue time"⟩

/-- A step handed out for one attempt. -/
structure DispatchRequest extends DispatchRequestFields where
  valid : toDispatchRequestFields.validDeadline = .ok () := by decide
  deriving DecidableEq

/-- Build a dispatch request, raising what it checks on itself. -/
def DispatchRequest.validated (fields : DispatchRequestFields) :
    Except ExecutionDomainError DispatchRequest :=
  buildChecked fields.validDeadline fun valid => { toDispatchRequestFields := fields, valid }

/-- A built request has the data it was built from. -/
@[simp] theorem DispatchRequest.validated_eq_ok_iff {fields : DispatchRequestFields}
    {request : DispatchRequest} :
    DispatchRequest.validated fields = .ok request ↔ request.toDispatchRequestFields = fields := by
  rw [DispatchRequest.validated, buildChecked_eq_ok_iff]
  constructor
  · rintro ⟨_, rfl⟩
    rfl
  · rintro rfl
    exact ⟨request.valid, rfl⟩

/-- No delay. -/
def noDelay : {delay : Nat // delay ≤ 300000} := ⟨0, by decide⟩

/-- A decision on another attempt, and how long to wait for it. -/
structure RetryDecision where
  outcome : RetryOutcome
  delayMs : {delay : Nat // delay ≤ 300000} := noDelay
  deriving DecidableEq

/-- Whether another attempt was decided. -/
def RetryDecision.retry (decision : RetryDecision) : Prop := decision.outcome = .retry

instance (decision : RetryDecision) : Decidable decision.retry :=
  inferInstanceAs (Decidable (_ = _))

/-- The data of a transition. -/
structure RuntimeTransitionFields where
  previousRevision : Nat
  state : ExecutionRuntimeState
  session : ExecutionSession
  events : List RuntimeEvent := []
  dispatchRequest : Option DispatchRequest := none
  executionResult : Option ExecutionResult := none
  idempotent : Bool := false
  deriving DecidableEq

/-- The checks a transition makes on itself. -/
def RuntimeTransitionFields.revisionContract (transition : RuntimeTransitionFields) :
    Except ExecutionDomainError Unit :=
  let expected :=
    if transition.idempotent then transition.previousRevision
    else transition.previousRevision + 1
  rejectIf (transition.state.revision ≠ expected ∨
      transition.session.runtimeRevision ≠ transition.state.revision)
    ⟨.contract, "runtime transition revision is inconsistent"⟩

/-- What one accepted operation answers. -/
structure RuntimeTransition extends RuntimeTransitionFields where
  contract : toRuntimeTransitionFields.revisionContract = .ok () := by decide
  deriving DecidableEq

/-- Build a transition, raising what it checks on itself. -/
def RuntimeTransition.validated (fields : RuntimeTransitionFields) :
    Except ExecutionDomainError RuntimeTransition :=
  buildChecked fields.revisionContract fun contract =>
    { toRuntimeTransitionFields := fields, contract }

/-- A built transition has the data it was built from. -/
@[simp] theorem RuntimeTransition.validated_eq_ok_iff {fields : RuntimeTransitionFields}
    {transition : RuntimeTransition} :
    RuntimeTransition.validated fields = .ok transition ↔
      transition.toRuntimeTransitionFields = fields := by
  rw [RuntimeTransition.validated, buildChecked_eq_ok_iff]
  constructor
  · rintro ⟨_, rfl⟩
    rfl
  · rintro rfl
    exact ⟨transition.contract, rfl⟩

theorem RuntimeTransition.revisions (transition : RuntimeTransition) :
    transition.state.revision =
        (if transition.idempotent then transition.previousRevision
          else transition.previousRevision + 1) ∧
      transition.session.runtimeRevision = transition.state.revision := by
  have contract := transition.contract
  simp only [RuntimeTransitionFields.revisionContract, rejectIf_eq_ok_iff, not_or,
    not_not] at contract
  exact contract

end PolicyOS.Execution
