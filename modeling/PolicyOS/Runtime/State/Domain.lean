import PolicyOS.Domain.Primitives

/-!
# Runtime execution state

The state of one governed execution, the request and decision behind each of its
transitions, and the record that keeps them all. A record is a snapshot: its
current state, revision and time are stored next to the history they should
follow from.
-/

namespace PolicyOS.Runtime

/-- A strictly positive bounded revision. -/
abbrev PositiveRevision := PositiveInt

/-- The states of a governed execution. -/
inductive RuntimeExecutionState
  | requested | admissionPending | admitted | planning | planned | ready | running | succeeded
  | failed | partiallyCompleted | cancelPending | cancelled | timedOut | compensationRequired
  | compensating | compensated | invalidated
  deriving DecidableEq, Repr

/-- Whether a transition was decided for. -/
inductive RuntimeTransitionDecisionStatus
  | allowed | denied
  deriving DecidableEq, Repr

/-- Versions of the state contract. -/
structure RuntimeStateContractVersion where
  runtimeStateVersion : BoundedVersion
  runtimeStateContractVersion : BoundedVersion
  runtimeStateSchemaVersion : BoundedVersion
  deriving DecidableEq

/-- The governed scope one state record is bound to. -/
structure RuntimeStateScope where
  runtimeExecutionRequestId : UUID
  runtimeAuthorityBundleId : UUID
  runtimeAdmissionDecisionId : UUID
  executionPlanId : Option UUID := none
  attemptId : UUID
  tenantId : UUID
  organizationId : UUID
  classification : DataClassification
  rootLineageId : UUID
  rootLineageDigestReference : BoundedId
  policyRevision : PositiveRevision
  authorizationRevision : Option PositiveRevision := none
  registryRevision : Option PositiveRevision := none
  deriving DecidableEq

/-- The states that are entered only with a stated reason. -/
def exceptionalStates : List RuntimeExecutionState :=
  [.cancelPending, .cancelled, .timedOut, .compensationRequired, .compensating, .compensated,
    .invalidated]

/-- A request to move one record from one state to another. -/
structure RuntimeStateTransitionRequest where
  runtimeStateTransitionRequestId : UUID
  contractVersion : RuntimeStateContractVersion
  scope : RuntimeStateScope
  fromState : RuntimeExecutionState
  toState : RuntimeExecutionState
  expectedRevision : PositiveRevision
  idempotencyKey : BoundedId
  actorId : UUID
  agentInstanceId : Option UUID := none
  authorityDecisionReferenceId : UUID
  permitReferenceId : Option UUID := none
  reasonReference : Option BoundedId := none
  errorReference : Option BoundedId := none
  requestedAt : DateTime
  errorOnlyOnFailure : toState = .failed ↔ errorReference ≠ none := by decide
  reasonOnException : toState ∈ exceptionalStates → reasonReference ≠ none := by decide
  deriving DecidableEq

/-- The decision on one request: a revision is given exactly when it is allowed. -/
structure RuntimeStateTransitionDecision where
  runtimeStateTransitionDecisionId : UUID
  runtimeStateTransitionRequestId : UUID
  decisionStatus : RuntimeTransitionDecisionStatus
  decisionReasonReference : BoundedId
  resultingRevision : Option PositiveRevision := none
  actorId : UUID
  tenantId : UUID
  organizationId : UUID
  classification : DataClassification
  policyRevision : PositiveRevision
  authorizationRevision : Option PositiveRevision := none
  registryRevision : Option PositiveRevision := none
  decidedAt : DateTime
  allowedRevision : decisionStatus = .allowed ↔ resultingRevision ≠ none := by decide
  deriving DecidableEq

/-- One recorded transition, with the request and the decision it came from. -/
structure RuntimeStateTransitionRecord where
  runtimeStateTransitionRecordId : UUID
  transitionRequest : RuntimeStateTransitionRequest
  transitionDecision : RuntimeStateTransitionDecision
  fromState : RuntimeExecutionState
  toState : RuntimeExecutionState
  expectedRevision : PositiveRevision
  resultingRevision : PositiveRevision
  idempotencyKey : BoundedId
  scope : RuntimeStateScope
  transitionedAt : DateTime
  deriving DecidableEq

/-- The state of one execution, with the whole history of it. -/
@[ext] structure RuntimeExecutionStateRecord where
  runtimeExecutionStateRecordId : UUID
  contractVersion : RuntimeStateContractVersion
  scope : RuntimeStateScope
  initialState : RuntimeExecutionState
  currentState : RuntimeExecutionState
  currentRevision : PositiveRevision
  transitions : List RuntimeStateTransitionRecord := []
  createdAt : DateTime
  updatedAt : DateTime
  beginsRequested : initialState = .requested := by decide
  updatedAfterCreation : createdAt ≤ updatedAt := by decide

instance : DecidableEq RuntimeExecutionStateRecord := fun _ _ =>
  decidable_of_iff' _ RuntimeExecutionStateRecord.ext_iff

/-- The record with one more transition: its state, revision and time are those the
transition leads to. -/
def RuntimeExecutionStateRecord.appended (record : RuntimeExecutionStateRecord)
    (transition : RuntimeStateTransitionRecord)
    (later : record.updatedAt ≤ transition.transitionedAt) : RuntimeExecutionStateRecord :=
  { record with
    currentState := transition.toState
    currentRevision := transition.resultingRevision
    transitions := record.transitions ++ [transition]
    updatedAt := transition.transitionedAt
    updatedAfterCreation := record.updatedAfterCreation.trans later }

/-- The exception classes of the runtime state. -/
inductive RuntimeStateErrorKind
  | transition | terminal | revision | scope | authority | classification | timestamp | history
  | idempotency
  deriving DecidableEq, Repr

/-- A typed failure with its message. -/
structure RuntimeStateError where
  kind : RuntimeStateErrorKind
  message : String
  deriving DecidableEq, Repr

end PolicyOS.Runtime
