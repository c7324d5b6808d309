import PolicyOS.Evaluation.Domain

/-!
# Execution states of an evaluation

The recorded progress of an evaluation plan. A record keeps every transition that led to its
state; applying a transition checks it against the record and builds the record anew, and a
record given with the decisions on its transitions is checked as a whole.
-/

namespace PolicyOS.Evaluation

open Foundation

/-! ## Vocabulary -/

/-- The states of an evaluation execution. -/
inductive EvaluationExecutionState
  | planned | validated | ready | inProgress | completed | failed | cancelled
  deriving DecidableEq, Repr

/-- What an execution may do. -/
inductive EvaluationExecutionCapability
  | offlineStateTransition
  deriving DecidableEq, Repr

/-- What an authorization of an execution is for. -/
inductive EvaluationExecutionPurpose
  | executionStateGovernance
  deriving DecidableEq, Repr

/-- What an authorization of an execution allows. -/
inductive EvaluationExecutionAction
  | stateTransition
  deriving DecidableEq, Repr

/-- The answer to a request for access. -/
inductive EvaluationDataAccessOutcome
  | allow | deny
  deriving DecidableEq, Repr

/-- The versions of a plan. -/
structure EvaluationPlanVersion where
  evaluationPlanVersion : String
  planningRevision : Nat
  plannerContractVersion : String
  plannerSchemaVersion : String
  deriving DecidableEq

/-- A reference to the fingerprint of a plan. -/
structure PlanningFingerprintReference where
  planningFingerprintReference : String
  fingerprintSchemaVersion : String
  deriving DecidableEq

/-- What an execution reads of the audit metadata of a plan. -/
structure PlanAuditMetadata where
  authorizationRevision : Nat
  deriving DecidableEq

/-- A decision on a request for access. -/
structure EvaluationDataAccessDecision where
  evaluationAccessDecisionId : UUID
  evaluationAccessRequestId : UUID
  outcome : EvaluationDataAccessOutcome
  deriving DecidableEq

/-! ## Plans and contexts -/

/-- What an execution reads of its plan. -/
structure EvaluationPlan where
  evaluationPlanId : UUID
  evaluationRunRequestId : UUID
  evaluationDefinitionId : UUID
  evaluationPolicyReferenceId : UUID
  evaluationPolicyRevision : Nat
  targetReferenceId : UUID
  datasetReferenceId : UUID
  datasetManifestReferenceId : UUID
  datasetSplitReferenceId : UUID
  evaluatorReferenceId : UUID
  evaluationRegistrySnapshotReferenceId : UUID
  registryRevision : Nat
  evaluationPlanVersion : Option EvaluationPlanVersion := none
  planningFingerprintReference : Option PlanningFingerprintReference := none
  auditMetadata : Option PlanAuditMetadata := none
  tenantId : UUID
  organizationId : UUID
  classification : DataClassification
  delegationLineageId : UUID
  delegationLineageDigest : String
  executionTier : ExecutionTier
  deriving DecidableEq

/-- What an execution is bound to. -/
structure EvaluationExecutionContext where
  evaluationExecutionId : UUID
  evaluationPlanId : UUID
  evaluationPlanVersion : Option EvaluationPlanVersion := none
  evaluationRunRequestId : UUID
  evaluationDefinitionId : UUID
  targetReferenceId : UUID
  datasetReferenceId : UUID
  datasetManifestReferenceId : UUID
  datasetSplitReferenceId : UUID
  evaluatorReferenceId : UUID
  evaluationRegistrySnapshotReferenceId : UUID
  registryRevision : Nat
  planningFingerprintReference : Option PlanningFingerprintReference := none
  tenantId : UUID
  organizationId : UUID
  classification : DataClassification
  actorId : UUID
  agentInstanceId : Option UUID := none
  evaluationPolicyReferenceId : UUID
  evaluationPolicyRevision : Nat
  authorizationRevision : Nat
  executionTier : ExecutionTier
  delegationLineageId : UUID
  delegationLineageDigest : String
  createdAt : DateTime
  /-- A context runs offline. -/
  offlineOnly : executionTier = .offlineEvaluation := by decide
  deriving DecidableEq

/-- What a transition is authorized by. -/
structure EvaluationExecutionAuthorizationBinding where
  authorizationDecisionId : UUID
  authorizationAccessRequestId : UUID
  authorizationRevision : Nat
  actorId : UUID
  agentInstanceId : Option UUID := none
  tenantId : UUID
  organizationId : UUID
  evaluationPolicyReferenceId : UUID
  evaluationPolicyRevision : Nat
  purpose : EvaluationExecutionPurpose
  resourceEvaluationPlanId : UUID
  action : EvaluationExecutionAction
  authorizedFromState : EvaluationExecutionState
  authorizedToState : EvaluationExecutionState
  executionTier : ExecutionTier
  capability : EvaluationExecutionCapability
  delegationLineageId : UUID
  delegationLineageDigest : String
  deriving DecidableEq

/-- What a context and its plan must agree on. -/
structure PlanTerms where
  evaluationPlanId : UUID
  evaluationPlanVersion : Option EvaluationPlanVersion
  evaluationRunRequestId : UUID
  evaluationDefinitionId : UUID
  targetReferenceId : UUID
  datasetReferenceId : UUID
  datasetManifestReferenceId : UUID
  datasetSplitReferenceId : UUID
  evaluatorReferenceId : UUID
  evaluationRegistrySnapshotReferenceId : UUID
  registryRevision : Nat
  planningFingerprintReference : Option PlanningFingerprintReference
  tenantId : UUID
  organizationId : UUID
  evaluationPolicyReferenceId : UUID
  evaluationPolicyRevision : Nat
  authorizationRevision : Nat
  executionTier : ExecutionTier
  delegationLineageId : UUID
  delegationLineageDigest : String
  deriving DecidableEq

/-- The terms a context states. -/
def EvaluationExecutionContext.planTerms (context : EvaluationExecutionContext) : PlanTerms :=
  { context with }

/-- The terms a plan states; the authorization revision is the context's own where the plan has
no audit metadata. -/
def EvaluationPlan.planTerms (plan : EvaluationPlan) (context : EvaluationExecutionContext) :
    PlanTerms :=
  { plan with
    authorizationRevision :=
      (plan.auditMetadata.map (·.authorizationRevision)).getD context.authorizationRevision }

/-- A context must match the plan it names, and not be classified lower. -/
def validateEvaluationExecutionPlanBinding (context : EvaluationExecutionContext)
    (plan : EvaluationPlan) : Except EvaluationError Unit := do
  requireClassificationNotLower context.classification [plan.classification]
    "evaluation execution classification"
  rejectIf (context.planTerms ≠ plan.planTerms context)
    ⟨.executionBindingMismatch, "evaluation execution context does not match plan"⟩

/-! ## Transitions -/

/-- Whether a state is left by no transition. -/
def EvaluationExecutionState.terminal : EvaluationExecutionState → Bool
  | .completed | .failed | .cancelled => true
  | _ => false

/-- Whether one state follows another where nothing fails. -/
def successTransition : EvaluationExecutionState → EvaluationExecutionState → Bool
  | .planned, .validated | .validated, .ready | .ready, .inProgress
  | .inProgress, .completed => true
  | _, _ => false

/-- An execution goes from state to state, or fails or is cancelled, until it ends. -/
def validateEvaluationExecutionStateTransition (fromState toState : EvaluationExecutionState) :
    Except EvaluationError Unit := do
  rejectIf (fromState = toState)
    ⟨.invalidExecutionTransition, "evaluation execution self-transition is forbidden"⟩
  rejectIf (fromState.terminal = true)
    ⟨.executionTerminalState, "terminal evaluation execution state cannot transition"⟩
  rejectIf (¬ successTransition fromState toState ∧ ¬ (toState = .failed ∨ toState = .cancelled))
    ⟨.invalidExecutionTransition, "evaluation execution state transition is forbidden"⟩

/-- What is recorded of one transition. -/
structure EvaluationExecutionTransitionFields where
  transitionId : UUID
  evaluationExecutionId : UUID
  evaluationPlanId : UUID
  fromState : EvaluationExecutionState
  toState : EvaluationExecutionState
  sequenceNumber : Nat
  transitionedAt : DateTime
  authorizationBinding : EvaluationExecutionAuthorizationBinding
  reasonCode : Option String := none
  failureReference : Option String := none
  cancellationReference : Option String := none
  deriving DecidableEq

/-- A transition says why it failed or was cancelled, and nothing of the other. -/
def EvaluationExecutionTransitionFields.validate (fields : EvaluationExecutionTransitionFields) :
    Except EvaluationError Unit :=
  match fields.toState with
  | .failed => do
      rejectIf (fields.reasonCode = none ∧ fields.failureReference = none)
        ⟨.invalidExecutionTransition, "failed transition requires failure metadata"⟩
      rejectIf (fields.cancellationReference ≠ none)
        ⟨.invalidExecutionTransition, "failed transition cannot contain cancellation metadata"⟩
  | .cancelled => do
      rejectIf (fields.reasonCode = none ∧ fields.cancellationReference = none)
        ⟨.invalidExecutionTransition, "cancelled transition requires cancellation metadata"⟩
      rejectIf (fields.failureReference ≠ none)
        ⟨.invalidExecutionTransition, "cancelled transition cannot contain failure metadata"⟩
  | _ =>
      rejectIf (fields.failureReference ≠ none ∨ fields.cancellationReference ≠ none)
        ⟨.invalidExecutionTransition, "non-terminal-outcome transition contains terminal metadata"⟩

/-- A validated transition. -/
structure EvaluationExecutionTransition extends EvaluationExecutionTransitionFields where
  validated : toEvaluationExecutionTransitionFields.validate = .ok ()

/-! ## Histories -/

/-- What the check of a history carries from transition to transition. -/
structure HistoryProgress where
  expectedSequence : Nat
  expectedState : EvaluationExecutionState
  previousTime : DateTime
  transitionIds : List UUID

/-- Check the next transition of a history. -/
def readTransition (evaluationExecutionId evaluationPlanId : UUID) (progress : HistoryProgress)
    (transition : EvaluationExecutionTransition) : Except EvaluationError HistoryProgress := do
  rejectIf (transition.sequenceNumber ≠ progress.expectedSequence)
    ⟨.executionSequence, "evaluation execution transition sequence is not canonical"⟩
  rejectIf (transition.transitionId ∈ progress.transitionIds)
    ⟨.executionSequence, "duplicate evaluation execution transition identity"⟩
  rejectIf (transition.evaluationExecutionId ≠ evaluationExecutionId ∨
      transition.evaluationPlanId ≠ evaluationPlanId)
    ⟨.executionBindingMismatch, "evaluation execution transition binding mismatch"⟩
  rejectIf (transition.fromState ≠ progress.expectedState)
    ⟨.executionSequence, "evaluation execution transition from_state mismatch"⟩
  rejectIf (transition.transitionedAt < progress.previousTime)
    ⟨.executionSequence, "evaluation execution transition timestamp decreased"⟩
  validateEvaluationExecutionStateTransition transition.fromState transition.toState
  pure {
    expectedSequence := progress.expectedSequence + 1
    expectedState := transition.toState
    previousTime := transition.transitionedAt
    transitionIds := progress.transitionIds ++ [transition.transitionId] }

/-- Check a history from the creation of its record on. -/
def validateEvaluationTransitionHistory (transitions : List EvaluationExecutionTransition)
    (evaluationExecutionId evaluationPlanId : UUID) (recordCreatedAt : DateTime) :
    Except EvaluationError Unit := do
  let _ ← transitions.foldlM (readTransition evaluationExecutionId evaluationPlanId)
    ⟨1, .planned, recordCreatedAt, []⟩
  pure ()

/-! ## Records -/

/-- What is recorded of an execution. -/
structure EvaluationExecutionRecordFields where
  evaluationExecutionId : UUID
  evaluationPlanId : UUID
  evaluationPlanVersion : Option EvaluationPlanVersion := none
  evaluationRunRequestId : UUID
  classification : DataClassification
  initialState : EvaluationExecutionState
  currentState : EvaluationExecutionState
  executionContext : EvaluationExecutionContext
  transitions : List EvaluationExecutionTransition := []
  createdAt : DateTime
  updatedAt : DateTime

/-- The state that a history leads to. -/
def stateAfter (transitions : List EvaluationExecutionTransition) : EvaluationExecutionState :=
  (transitions.getLast?.map (·.toState)).getD .planned

/-- The time of the last transition, or of the creation. -/
def updatedAfter (transitions : List EvaluationExecutionTransition) (createdAt : DateTime) :
    DateTime :=
  (transitions.getLast?.map (·.transitionedAt)).getD createdAt

/-- The validators of a record. -/
def EvaluationExecutionRecordFields.validate (fields : EvaluationExecutionRecordFields) :
    Except EvaluationError Unit := do
  requireClassificationNotLower fields.classification [fields.executionContext.classification]
    "evaluation execution record classification"
  rejectIf (fields.initialState ≠ .planned)
    ⟨.invalidExecutionState, "evaluation execution initial state must be planned"⟩
  rejectIf (fields.updatedAt < fields.createdAt)
    ⟨.executionSequence, "evaluation execution updated_at precedes created_at"⟩
  validateEvaluationTransitionHistory fields.transitions fields.evaluationExecutionId
    fields.evaluationPlanId fields.createdAt
  rejectIf (fields.currentState ≠ stateAfter fields.transitions)
    ⟨.invalidExecutionState,
      "evaluation execution current state does not match transition history"⟩
  rejectIf (fields.updatedAt ≠ updatedAfter fields.transitions fields.createdAt)
    ⟨.executionSequence, "evaluation execution updated_at does not match transition history"⟩
  rejectIf (fields.executionContext.evaluationExecutionId ≠ fields.evaluationExecutionId ∨
      fields.executionContext.evaluationPlanId ≠ fields.evaluationPlanId ∨
      fields.executionContext.evaluationRunRequestId ≠ fields.evaluationRunRequestId ∨
      fields.executionContext.evaluationPlanVersion ≠ fields.evaluationPlanVersion ∨
      fields.executionContext.createdAt ≠ fields.createdAt)
    ⟨.executionBindingMismatch, "evaluation execution record context mismatch"⟩

/-- A validated record. -/
structure EvaluationExecutionRecord extends EvaluationExecutionRecordFields where
  internallyConsistent : toEvaluationExecutionRecordFields.validate = .ok ()

/-! ## Authorization -/

/-- What an authorization and the transition it is for must agree on. -/
structure AuthorizationTerms where
  actorId : UUID
  agentInstanceId : Option UUID
  tenantId : UUID
  organizationId : UUID
  evaluationPolicyReferenceId : UUID
  evaluationPolicyRevision : Nat
  authorizationRevision : Nat
  purpose : EvaluationExecutionPurpose
  resourceEvaluationPlanId : UUID
  action : EvaluationExecutionAction
  authorizedFromState : EvaluationExecutionState
  authorizedToState : EvaluationExecutionState
  executionTier : ExecutionTier
  delegationLineageId : UUID
  delegationLineageDigest : String
  deriving DecidableEq

/-- The terms a binding states. -/
def EvaluationExecutionAuthorizationBinding.terms
    (binding : EvaluationExecutionAuthorizationBinding) : AuthorizationTerms :=
  { binding with }

/-- The terms a transition of an execution needs. -/
def EvaluationExecutionContext.authorizationTerms (context : EvaluationExecutionContext)
    (transition : EvaluationExecutionTransition) : AuthorizationTerms :=
  { context with
    purpose := .executionStateGovernance
    resourceEvaluationPlanId := context.evaluationPlanId
    action := .stateTransition
    authorizedFromState := transition.fromState
    authorizedToState := transition.toState
    executionTier := .offlineEvaluation }

/-- A transition must be allowed by a decision that its binding names, for the execution. -/
def validateEvaluationExecutionAuthorization (binding : EvaluationExecutionAuthorizationBinding)
    (decision : EvaluationDataAccessDecision) (context : EvaluationExecutionContext)
    (transition : EvaluationExecutionTransition) : Except EvaluationError Unit := do
  rejectIf (decision.outcome ≠ .allow ∨
      decision.evaluationAccessDecisionId ≠ binding.authorizationDecisionId ∨
      decision.evaluationAccessRequestId ≠ binding.authorizationAccessRequestId)
    ⟨.executionAuthorization, "evaluation execution transition authorization is not allowed"⟩
  rejectIf (binding.capability ≠ .offlineStateTransition)
    ⟨.executionCapability, "evaluation execution capability is not permitted"⟩
  rejectIf (binding.terms ≠ context.authorizationTerms transition)
    ⟨.executionAuthorization, "evaluation execution authorization binding mismatch"⟩

/-- Check a transition against the record it is applied to. -/
def validateEvaluationExecutionTransition (transition : EvaluationExecutionTransition)
    (record : EvaluationExecutionRecord) (plan : EvaluationPlan)
    (authorizationDecision : EvaluationDataAccessDecision) : Except EvaluationError Unit := do
  validateEvaluationExecutionPlanBinding record.executionContext plan
  rejectIf (transition.evaluationExecutionId ≠ record.evaluationExecutionId ∨
      transition.evaluationPlanId ≠ record.evaluationPlanId)
    ⟨.executionBindingMismatch, "evaluation execution transition record mismatch"⟩
  rejectIf (transition.sequenceNumber ≠ record.transitions.length + 1)
    ⟨.executionSequence, "evaluation execution transition sequence mismatch"⟩
  rejectIf (transition.fromState ≠ record.currentState)
    ⟨.executionSequence, "evaluation execution transition current-state mismatch"⟩
  rejectIf (transition.transitionedAt < record.updatedAt)
    ⟨.executionSequence, "evaluation execution transition timestamp decreased"⟩
  validateEvaluationExecutionStateTransition transition.fromState transition.toState
  validateEvaluationExecutionAuthorization transition.authorizationBinding authorizationDecision
    record.executionContext transition

/-- Check a record and the decisions on its transitions against a plan. -/
def validateEvaluationExecutionRecord (record : EvaluationExecutionRecord) (plan : EvaluationPlan)
    (authorizationDecisions : List EvaluationDataAccessDecision) :
    Except EvaluationError Unit := do
  requireClassificationNotLower record.classification
    [plan.classification, record.executionContext.classification]
    "evaluation execution record classification"
  validateEvaluationExecutionPlanBinding record.executionContext plan
  rejectIf (record.evaluationExecutionId ≠ record.executionContext.evaluationExecutionId ∨
      record.evaluationPlanId ≠ record.executionContext.evaluationPlanId ∨
      record.evaluationPlanVersion ≠ record.executionContext.evaluationPlanVersion ∨
      record.evaluationRunRequestId ≠ record.executionContext.evaluationRunRequestId ∨
      record.createdAt ≠ record.executionContext.createdAt)
    ⟨.executionBindingMismatch, "evaluation execution record context mismatch"⟩
  validateEvaluationTransitionHistory record.transitions record.evaluationExecutionId
    record.evaluationPlanId record.createdAt
  rejectIf (record.initialState ≠ .planned)
    ⟨.invalidExecutionState, "evaluation execution initial state must be planned"⟩
  rejectIf (record.currentState ≠ stateAfter record.transitions)
    ⟨.invalidExecutionState,
      "evaluation execution current state does not match transition history"⟩
  rejectIf (record.updatedAt ≠ updatedAfter record.transitions record.createdAt)
    ⟨.executionSequence, "evaluation execution updated_at does not match transition history"⟩
  rejectIf (record.evaluationPlanVersion ≠ plan.evaluationPlanVersion)
    ⟨.executionBindingMismatch, "evaluation execution record plan version mismatch"⟩
  rejectIf (authorizationDecisions.length ≠ record.transitions.length)
    ⟨.executionAuthorization, "evaluation execution authorization history is incomplete"⟩
  checkEach (fun given => validateEvaluationExecutionAuthorization given.1.authorizationBinding
    given.2 record.executionContext given.1) (record.transitions.zip authorizationDecisions)

/-- What is recorded of a record after a transition. -/
def EvaluationExecutionRecord.afterTransition (record : EvaluationExecutionRecord)
    (transition : EvaluationExecutionTransition) : EvaluationExecutionRecordFields where
  evaluationExecutionId := record.evaluationExecutionId
  evaluationPlanId := record.evaluationPlanId
  evaluationPlanVersion := record.evaluationPlanVersion
  evaluationRunRequestId := record.evaluationRunRequestId
  classification := record.classification
  initialState := record.initialState
  currentState := transition.toState
  executionContext := record.executionContext
  transitions := record.transitions ++ [transition]
  createdAt := record.createdAt
  updatedAt := transition.transitionedAt

/-- Apply a transition that a decision authorizes. -/
def applyEvaluationExecutionTransition (record : EvaluationExecutionRecord)
    (transition : EvaluationExecutionTransition) (plan : EvaluationPlan)
    (authorizationDecision : EvaluationDataAccessDecision) :
    Except EvaluationError EvaluationExecutionRecord := do
  validateEvaluationExecutionTransition transition record plan authorizationDecision
  buildChecked (record.afterTransition transition).validate fun valid => ⟨_, valid⟩

end PolicyOS.Evaluation
