import PolicyOS.Foundation.Transition
import PolicyOS.Orchestration.Translation

/-!
# The runtime of assignments

An assignment is prepared of a request and its binding, claimed under a lease, started and
ended. Every operation checks the scope and the state it needs, and builds the record of
the next state, which checks itself again.
-/

namespace PolicyOS.Orchestration

open Foundation

/-- How far an assignment got. -/
inductive AssignmentExecutionRuntimeStatus
  | prepared | claimed | running | succeeded | failed | cancelled | expired
  deriving DecidableEq, Repr

/-- The states an assignment stays in. -/
def AssignmentExecutionRuntimeStatus.terminal : List AssignmentExecutionRuntimeStatus :=
  [.succeeded, .failed, .cancelled, .expired]

/-- Why an assignment expired. -/
inductive AssignmentExpirationCause
  | assignmentDeadline | leaseExpired
  deriving DecidableEq, Repr

/-- The claim of a worker. -/
@[ext] structure AssignmentExecutionLease where
  ownerId : String
  claimedAt : DateTime
  expiresAt : DateTime
  ordered : claimedAt < expiresAt := by decide

instance : DecidableEq AssignmentExecutionLease := fun _ _ =>
  decidable_of_iff' _ AssignmentExecutionLease.ext_iff

/-- How an assignment failed. -/
structure AssignmentExecutionFailure where
  errorCode : String
  safeMessage : String
  failedAt : DateTime
  deriving DecidableEq

/-- Why an assignment was cancelled. -/
structure AssignmentExecutionCancellation where
  reasonCode : String
  safeReason : String
  cancelledAt : DateTime
  requestedBy : String
  deriving DecidableEq

/-- When and why an assignment expired. -/
structure AssignmentExecutionExpiration where
  cause : AssignmentExpirationCause
  expiredAt : DateTime
  deriving DecidableEq

/-- What a runtime is held to, as far as an operation reads it. -/
structure AssignmentExecutionRuntimePolicy where
  cancellationAllowed : Bool := true

/-- The trusted scope of an operation. -/
structure AssignmentExecutionRuntimeContext where
  executionId : UUID
  assignmentRequestId : String
  assignmentId : UUID
  taskId : String
  executionStepId : String
  organizationId : UUID
  actorId : UUID
  classification : DataClassification
  deriving DecidableEq

/-- The exception classes of the runtime. A record that checks itself raises a validation
error, and a time without a timezone one of its own. -/
inductive AssignmentRuntimeErrorKind
  | tenantMismatch | classificationMismatch | identityMismatch | invalidTransition
  | terminalState | attempt | lease | deadline | naiveTime | recordValidation
  deriving DecidableEq, Repr

/-- A typed failure of the runtime with its message. -/
structure AssignmentRuntimeError where
  kind : AssignmentRuntimeErrorKind
  message : String
  deriving DecidableEq, Repr

/-! ## Records -/

/-- The data of a record. -/
structure AssignmentExecutionRecordFields where
  executionId : UUID
  assignmentRequestId : String
  assignmentId : UUID
  taskId : String
  executionStepId : String
  organizationId : UUID
  actorId : UUID
  classification : DataClassification
  status : AssignmentExecutionRuntimeStatus
  attempt : Nat := 1
  lease : Option AssignmentExecutionLease := none
  deadline : DateTime
  preparedAt : DateTime
  claimedAt : Option DateTime := none
  startedAt : Option DateTime := none
  completedAt : Option DateTime := none
  failure : Option AssignmentExecutionFailure := none
  cancellation : Option AssignmentExecutionCancellation := none
  expiration : Option AssignmentExecutionExpiration := none
  deriving DecidableEq

/-- A text is not empty and no longer than a bound. -/
def boundedText (maximum : Nat) (text : String) : Prop :=
  1 ≤ text.toList.length ∧ text.toList.length ≤ maximum

/-- An error of the record itself. -/
def invalidRecord (message : String) : AssignmentRuntimeError := ⟨.recordValidation, message⟩

/-- The length of a text is bounded. -/
def checkText (maximum : Nat) (text : String) : Except AssignmentRuntimeError Unit := do
  rejectIf (text.toList.length < 1) (invalidRecord "String should have at least 1 character")
  rejectIf (maximum < text.toList.length)
    (invalidRecord ("String should have at most " ++ toString maximum ++ " characters"))

theorem checkText_eq_ok_iff {maximum : Nat} {text : String} :
    checkText maximum text = .ok () ↔ boundedText maximum text := by
  simp only [checkText, boundedText, bind_eq_ok_iff, exists_unit_iff, rejectIf_eq_ok_iff, not_lt]

namespace AssignmentExecutionRecordFields

variable (record : AssignmentExecutionRecordFields)

/-- The bounds of the fields. -/
def bounds : Except AssignmentRuntimeError Unit := do
  checkText 200 record.assignmentRequestId
  checkText 100 record.taskId
  checkText 100 record.executionStepId
  rejectIf (record.attempt < 1) (invalidRecord "Input should be greater than or equal to 1")
  rejectIf (1 < record.attempt) (invalidRecord "Input should be less than or equal to 1")

/-- When the terminal information says the assignment ended. -/
def terminalTimes : List DateTime :=
  (record.failure.map (·.failedAt)).toList ++
    (record.cancellation.map (·.cancelledAt)).toList ++
      (record.expiration.map (·.expiredAt)).toList

/-- The checks a record makes on its lifecycle. -/
def lifecycle : Except AssignmentRuntimeError Unit := do
  rejectIf (record.deadline ≤ record.preparedAt)
    (invalidRecord "assignment deadline must follow preparation")
  rejectIf (record.status = .prepared ∧ (record.lease ≠ none ∨ record.claimedAt ≠ none ∨
      record.startedAt ≠ none ∨ record.completedAt ≠ none))
    (invalidRecord "prepared assignment cannot contain runtime timestamps or lease")
  rejectIf (record.status = .claimed ∧ (record.lease = none ∨
      record.claimedAt ≠ record.lease.map (·.claimedAt)))
    (invalidRecord "claimed assignment requires its exact lease")
  rejectIf (record.status = .claimed ∧ (record.startedAt ≠ none ∨ record.completedAt ≠ none))
    (invalidRecord "claimed assignment cannot be started or completed")
  rejectIf (record.status = .running ∧ (record.lease = none ∨ record.claimedAt = none ∨
      record.startedAt = none))
    (invalidRecord "running assignment requires lease, claim, and start timestamps")
  rejectIf (record.status = .running ∧ record.completedAt ≠ none)
    (invalidRecord "running assignment cannot be completed")
  rejectIf (∃ claimedAt ∈ record.claimedAt, claimedAt < record.preparedAt)
    (invalidRecord "claim cannot precede preparation")
  rejectIf (∃ startedAt ∈ record.startedAt, record.claimedAt = none ∨
      ∃ claimedAt ∈ record.claimedAt, startedAt < claimedAt)
    (invalidRecord "start cannot precede claim")
  rejectIf (∃ completedAt ∈ record.completedAt,
      completedAt < record.startedAt.getD record.preparedAt)
    (invalidRecord "completion cannot precede lifecycle start")
  rejectIf (record.status ∈ AssignmentExecutionRuntimeStatus.terminal ∧ record.completedAt = none)
    (invalidRecord "terminal assignment requires completion timestamp")
  rejectIf (record.status ∉ AssignmentExecutionRuntimeStatus.terminal ∧ record.completedAt ≠ none)
    (invalidRecord "non-terminal assignment cannot be completed")
  rejectIf (¬ (record.failure ≠ none ↔ record.status = .failed))
    (invalidRecord "failure information must match failed status")
  rejectIf (¬ (record.cancellation ≠ none ↔ record.status = .cancelled))
    (invalidRecord "cancellation information must match cancelled status")
  rejectIf (¬ (record.expiration ≠ none ↔ record.status = .expired))
    (invalidRecord "expiration information must match expired status")
  rejectIf (∃ occurredAt ∈ record.terminalTimes, some occurredAt ≠ record.completedAt)
    (invalidRecord "terminal information timestamp must match completion")

/-- The checks a record makes on itself. -/
def validate : Except AssignmentRuntimeError Unit := do
  record.bounds
  record.lifecycle

end AssignmentExecutionRecordFields

/-- The record of an assignment. -/
structure AssignmentExecutionRecord extends AssignmentExecutionRecordFields where
  consistent : toAssignmentExecutionRecordFields.validate = .ok () := by decide
  deriving DecidableEq

/-- Build a record, raising what it checks on itself. -/
def AssignmentExecutionRecord.validated (fields : AssignmentExecutionRecordFields) :
    Except AssignmentRuntimeError AssignmentExecutionRecord :=
  buildChecked fields.validate fun consistent =>
    { toAssignmentExecutionRecordFields := fields, consistent }

/-! ## Checks of operations -/

/-- A record is operated on in its own scope. -/
def validateScope (record : AssignmentExecutionRecord)
    (context : AssignmentExecutionRuntimeContext) : Except AssignmentRuntimeError Unit := do
  rejectIf (record.organizationId ≠ context.organizationId)
    ⟨.tenantMismatch, "Assignment runtime tenant mismatch"⟩
  rejectIf (record.classification ≠ context.classification)
    ⟨.classificationMismatch, "Assignment runtime classification mismatch"⟩
  rejectIf (record.executionId ≠ context.executionId ∨
      record.assignmentRequestId ≠ context.assignmentRequestId ∨
      record.assignmentId ≠ context.assignmentId ∨
      record.taskId ≠ context.taskId ∨
      record.executionStepId ≠ context.executionStepId ∨
      record.actorId ≠ context.actorId)
    ⟨.identityMismatch, "Assignment runtime identity mismatch"⟩

/-- A time has a timezone. -/
def requireAwareMoment (field : String) : Moment → Except AssignmentRuntimeError DateTime
  | .aware instant => .ok instant
  | .naive _ => .error ⟨.naiveTime, field ++ " must be timezone-aware"⟩

/-- The last time of a record. -/
def AssignmentExecutionRecordFields.latest (record : AssignmentExecutionRecordFields) : DateTime :=
  (record.startedAt.or record.claimedAt).getD record.preparedAt

/-- A time is not before the last one of a record. -/
def requireTime (record : AssignmentExecutionRecord) (occurredAt : Moment) :
    Except AssignmentRuntimeError DateTime := do
  let instant ← requireAwareMoment "occurred_at" occurredAt
  rejectIf (instant < record.latest)
    ⟨.invalidTransition, "Assignment transition cannot move time backwards"⟩
  pure instant

/-- A record has not ended. -/
def requireNonterminal (record : AssignmentExecutionRecord) : Except AssignmentRuntimeError Unit :=
  rejectIf (record.status ∈ AssignmentExecutionRuntimeStatus.terminal)
    ⟨.terminalState, "Terminal assignment cannot transition"⟩

/-- A record has the lease of an owner. -/
def requireLease (record : AssignmentExecutionRecord)
    (status : AssignmentExecutionRuntimeStatus) (message : String) :
    Except AssignmentRuntimeError AssignmentExecutionLease :=
  match record.lease with
  | some lease =>
      if record.status = status then .ok lease else .error ⟨.invalidTransition, message⟩
  | none => .error ⟨.invalidTransition, message⟩

/-! ## Operations -/

/-- Prepare an assignment of its request and its binding. The deadline is never missing. -/
def prepareAssignmentExecution (executionId : UUID) (request : AssignmentExecutionRequest)
    (binding : AssignmentExecutionBinding) (preparedAt : Moment) :
    Except AssignmentRuntimeError AssignmentExecutionRecord := do
  let preparedAt ← requireAwareMoment "prepared_at" preparedAt
  rejectIf (request.assignmentExecutionRequestId ≠ binding.executionRequestId)
    ⟨.identityMismatch, "Assignment request and binding identity mismatch"⟩
  rejectIf (request.assignmentId ≠ binding.assignmentId ∨ request.taskId ≠ binding.taskId ∨
      request.agentDefinitionId ≠ binding.agentDefinitionId)
    ⟨.identityMismatch, "Assignment request and binding identity mismatch"⟩
  rejectIf (request.organizationId ≠ binding.organizationId)
    ⟨.tenantMismatch, "Assignment request and binding tenant mismatch"⟩
  rejectIf (request.classification ≠ binding.classification)
    ⟨.classificationMismatch, "Assignment request and binding classification mismatch"⟩
  rejectIf (preparedAt ≥ request.deadline) ⟨.deadline, "Assignment deadline has expired"⟩
  AssignmentExecutionRecord.validated
    { executionId := executionId
      assignmentRequestId := request.assignmentExecutionRequestId
      assignmentId := request.assignmentId
      taskId := request.taskId
      executionStepId := binding.executionStepId
      organizationId := request.organizationId
      actorId := request.actorId
      classification := request.classification
      status := .prepared
      deadline := request.deadline
      preparedAt := preparedAt }

/-- Claim a prepared assignment. -/
def claimAssignmentExecution (record : AssignmentExecutionRecord)
    (context : AssignmentExecutionRuntimeContext) (lease : AssignmentExecutionLease) :
    Except AssignmentRuntimeError AssignmentExecutionRecord := do
  validateScope record context
  requireNonterminal record
  rejectIf (record.attempt ≠ 1) ⟨.attempt, "Assignment attempt must remain one"⟩
  rejectIf (record.status ≠ .prepared) ⟨.lease, "Only a prepared assignment can be claimed"⟩
  rejectIf (lease.claimedAt < record.preparedAt)
    ⟨.lease, "Lease claim cannot precede preparation"⟩
  rejectIf (lease.claimedAt ≥ record.deadline ∨ lease.expiresAt > record.deadline)
    ⟨.deadline, "Lease exceeds assignment deadline"⟩
  AssignmentExecutionRecord.validated
    { record.toAssignmentExecutionRecordFields with
      status := .claimed
      lease := some lease
      claimedAt := some lease.claimedAt }

/-- Start a claimed assignment under its lease. -/
def startAssignmentExecution (record : AssignmentExecutionRecord)
    (context : AssignmentExecutionRuntimeContext) (ownerId : String) (startedAt : Moment) :
    Except AssignmentRuntimeError AssignmentExecutionRecord := do
  validateScope record context
  requireNonterminal record
  let startedAt ← requireTime record startedAt
  let lease ← requireLease record .claimed "Only a claimed assignment can start"
  rejectIf (ownerId ≠ lease.ownerId) ⟨.lease, "Assignment start lease owner mismatch"⟩
  rejectIf (startedAt ≥ lease.expiresAt) ⟨.lease, "Assignment lease has expired"⟩
  rejectIf (startedAt ≥ record.deadline) ⟨.deadline, "Assignment deadline has expired"⟩
  AssignmentExecutionRecord.validated
    { record.toAssignmentExecutionRecordFields with
      status := .running
      startedAt := some startedAt }

/-- End a running assignment with success, under its lease. -/
def succeedAssignmentExecution (record : AssignmentExecutionRecord)
    (context : AssignmentExecutionRuntimeContext) (ownerId : String) (completedAt : Moment) :
    Except AssignmentRuntimeError AssignmentExecutionRecord := do
  validateScope record context
  requireNonterminal record
  let completedAt ← requireTime record completedAt
  let lease ← requireLease record .running "Only a running assignment can succeed"
  rejectIf (ownerId ≠ lease.ownerId) ⟨.lease, "Assignment completion lease owner mismatch"⟩
  rejectIf (completedAt ≥ lease.expiresAt) ⟨.lease, "Assignment lease has expired"⟩
  rejectIf (completedAt ≥ record.deadline) ⟨.deadline, "Assignment deadline has expired"⟩
  AssignmentExecutionRecord.validated
    { record.toAssignmentExecutionRecordFields with
      status := .succeeded
      completedAt := some completedAt }

/-- End a running assignment with a failure. -/
def failAssignmentExecution (record : AssignmentExecutionRecord)
    (context : AssignmentExecutionRuntimeContext) (ownerId : String)
    (failure : AssignmentExecutionFailure) :
    Except AssignmentRuntimeError AssignmentExecutionRecord := do
  validateScope record context
  requireNonterminal record
  let failedAt ← requireTime record (.aware failure.failedAt)
  let lease ← requireLease record .running "Only a running assignment can fail"
  rejectIf (ownerId ≠ lease.ownerId) ⟨.lease, "Assignment failure lease owner mismatch"⟩
  AssignmentExecutionRecord.validated
    { record.toAssignmentExecutionRecordFields with
      status := .failed
      completedAt := some failedAt
      failure := some failure }

/-- Cancel an assignment that has not ended. -/
def cancelAssignmentExecution (record : AssignmentExecutionRecord)
    (context : AssignmentExecutionRuntimeContext)
    (cancellation : AssignmentExecutionCancellation) (policy : AssignmentExecutionRuntimePolicy) :
    Except AssignmentRuntimeError AssignmentExecutionRecord := do
  validateScope record context
  requireNonterminal record
  let cancelledAt ← requireTime record (.aware cancellation.cancelledAt)
  rejectIf (policy.cancellationAllowed = false)
    ⟨.invalidTransition, "Assignment cancellation is disabled"⟩
  rejectIf (record.status ∉ [.prepared, .claimed, .running])
    ⟨.invalidTransition, "Assignment state cannot be cancelled"⟩
  AssignmentExecutionRecord.validated
    { record.toAssignmentExecutionRecordFields with
      status := .cancelled
      completedAt := some cancelledAt
      cancellation := some cancellation }

/-- Expire an assignment whose deadline or whose lease has passed. -/
def expireAssignmentExecution (record : AssignmentExecutionRecord)
    (context : AssignmentExecutionRuntimeContext) (evaluatedAt : Moment) :
    Except AssignmentRuntimeError AssignmentExecutionRecord := do
  validateScope record context
  requireNonterminal record
  let evaluatedAt ← requireTime record evaluatedAt
  let leaseExpired := ∃ lease ∈ record.lease, evaluatedAt ≥ lease.expiresAt
  rejectIf (¬ evaluatedAt ≥ record.deadline ∧ ¬ leaseExpired)
    ⟨.deadline, "Assignment has not expired"⟩
  AssignmentExecutionRecord.validated
    { record.toAssignmentExecutionRecordFields with
      status := .expired
      completedAt := some evaluatedAt
      expiration := some
        { cause := if evaluatedAt ≥ record.deadline then .assignmentDeadline else .leaseExpired
          expiredAt := evaluatedAt } }

/-! ## Runs -/

/-- An operation on a record. -/
inductive AssignmentOperation
  | claim (context : AssignmentExecutionRuntimeContext) (lease : AssignmentExecutionLease)
  | start (context : AssignmentExecutionRuntimeContext) (ownerId : String) (startedAt : Moment)
  | succeed (context : AssignmentExecutionRuntimeContext) (ownerId : String) (completedAt : Moment)
  | fail (context : AssignmentExecutionRuntimeContext) (ownerId : String)
      (failure : AssignmentExecutionFailure)
  | cancel (context : AssignmentExecutionRuntimeContext)
      (cancellation : AssignmentExecutionCancellation) (policy : AssignmentExecutionRuntimePolicy)
  | expire (context : AssignmentExecutionRuntimeContext) (evaluatedAt : Moment)

/-- Apply an operation to a record. -/
def AssignmentOperation.apply (record : AssignmentExecutionRecord) :
    AssignmentOperation → Except AssignmentRuntimeError AssignmentExecutionRecord
  | .claim context lease => claimAssignmentExecution record context lease
  | .start context ownerId startedAt => startAssignmentExecution record context ownerId startedAt
  | .succeed context ownerId completedAt =>
      succeedAssignmentExecution record context ownerId completedAt
  | .fail context ownerId failure => failAssignmentExecution record context ownerId failure
  | .cancel context cancellation policy =>
      cancelAssignmentExecution record context cancellation policy
  | .expire context evaluatedAt => expireAssignmentExecution record context evaluatedAt

/-- The runs of an assignment: it is prepared, and operations are accepted. -/
def assignmentRuns : TransitionSystem AssignmentExecutionRecord AssignmentOperation where
  Initial record := ∃ executionId request binding preparedAt,
    prepareAssignmentExecution executionId request binding preparedAt = .ok record
  Step record operation next := operation.apply record = .ok next

end PolicyOS.Orchestration
