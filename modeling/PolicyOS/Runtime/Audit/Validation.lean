import PolicyOS.Runtime.Audit.Domain
import PolicyOS.Runtime.Authority.Domain
import PolicyOS.Runtime.Planning.Domain
import PolicyOS.Runtime.Registry.Snapshots
import PolicyOS.Runtime.State.Domain

/-!
# Runtime audit validation

What one event must refer to for its category, what it must agree with in the
authority, the plan, the state and the registry it names, and how the events of a
trail are chained. An append is checked against the trail it appends to.
-/

namespace PolicyOS.Runtime

open Foundation

/-- Categories of an admission. -/
def admissionCategories : List RuntimeAuditEventCategory := [.admissionGranted, .admissionDenied]

/-- Categories of a plan. -/
def planCategories : List RuntimeAuditEventCategory := [.planCreated, .planValidated]

/-- Categories of a step of a plan. -/
def stepCategories : List RuntimeAuditEventCategory :=
  [.stepStarted, .actionRequested, .actionSucceeded, .actionFailed, .retryRequested,
    .retryRecorded, .compensationRequested, .compensationStarted, .compensationCompleted]

/-- Categories of a registered action. -/
def actionCategories : List RuntimeAuditEventCategory :=
  [.actionRequested, .actionSucceeded, .actionFailed, .compensationRequested,
    .compensationStarted, .compensationCompleted]

/-- Categories of a retry. -/
def retryCategories : List RuntimeAuditEventCategory := [.retryRequested, .retryRecorded]

/-- Categories of a cancellation. -/
def cancellationCategories : List RuntimeAuditEventCategory :=
  [.cancellationRequested, .executionCancelled]

/-- Categories of a compensation. -/
def compensationCategories : List RuntimeAuditEventCategory :=
  [.compensationRequested, .compensationStarted, .compensationCompleted]

/-- Categories of a state transition. -/
def transitionCategories : List RuntimeAuditEventCategory :=
  [.executionStarted, .cancellationRequested, .executionCancelled, .executionCompleted,
    .executionInvalidated]

/-- What an event of some categories must refer to. -/
def RuntimeAuditEvent.require (event : RuntimeAuditEvent)
    (categories : List RuntimeAuditEventCategory) (condition : Prop) [Decidable condition]
    (message : String) : Except RuntimeAuditError Unit :=
  rejectIf (event.category ∈ categories ∧ ¬ condition) ⟨.category, message⟩

/-- The event names the exact registry entry and action it is about. -/
def RuntimeAuditEvent.namesAction (event : RuntimeAuditEvent) : Prop :=
  event.action.runtimeRegistrySnapshotId ≠ none ∧
  event.action.registryRevision ≠ none ∧
  event.action.runtimeActionResolutionDecisionId ≠ none ∧
  event.action.runtimeRegistrySnapshotEntryId ≠ none ∧
  event.action.actionDefinitionId ≠ none ∧
  event.action.actionVersion ≠ none ∧
  event.action.action ≠ none ∧
  event.authority.permitReferenceIds ≠ []

instance (event : RuntimeAuditEvent) : Decidable event.namesAction :=
  inferInstanceAs (Decidable (_ ∧ _ ∧ _ ∧ _ ∧ _ ∧ _ ∧ _ ∧ _))

/-- An event must carry the references its category asks for. -/
def validateRuntimeAuditEvent (event : RuntimeAuditEvent) : Except RuntimeAuditError Unit := do
  let authority := event.authority
  let execution := event.execution
  let outcome := event.outcome
  event.require admissionCategories
    (authority.runtimeAuthorityBundleId ≠ none ∧ authority.runtimeAdmissionDecisionId ≠ none)
    "admission audit requires authority bundle and decision references"
  event.require [.admissionGranted]
    (authority.permitReferenceIds ≠ [] ∧ outcome.reasonReference = none)
    "granted admission requires permits and no denial reason"
  event.require [.admissionDenied]
    (outcome.reasonReference ≠ none ∧ authority.permitReferenceIds = [])
    "denied admission requires reason and no permits"
  event.require planCategories (execution.executionPlanId ≠ none)
    "plan audit requires execution plan reference"
  event.require [.planValidated] (execution.executionPlanValidationRecordId ≠ none)
    "validated plan audit requires validation record reference"
  event.require [.executionStarted]
    (execution.attemptId ≠ none ∧ execution.runtimeExecutionStateRecordId ≠ none ∧
      execution.runtimeStateTransitionRecordId ≠ none)
    "execution start requires attempt, state, and transition references"
  event.require stepCategories
    (execution.executionPlanId ≠ none ∧ execution.executionPlanStepId ≠ none ∧
      execution.attemptId ≠ none)
    "step or action audit requires plan, step, and attempt references"
  event.require actionCategories event.namesAction
    "governed action audit requires exact registry, action, and permit references"
  event.require [.actionRequested] (outcome = {}) "requested action cannot claim an outcome"
  event.require [.actionSucceeded]
    (outcome.resultReference ≠ none ∧ outcome.errorCode = none ∧ outcome.errorReference = none)
    "successful action requires result and forbids error references"
  event.require [.actionFailed]
    (outcome.errorCode ≠ none ∧ outcome.errorReference ≠ none ∧ outcome.resultReference = none)
    "failed action requires bounded error references and forbids result"
  event.require retryCategories
    (execution.priorAttemptId ≠ none ∧ execution.attemptId ≠ none ∧
      execution.priorAttemptId ≠ execution.attemptId ∧ outcome.retryGovernanceReference ≠ none)
    "retry audit requires distinct attempts and retry governance reference"
  event.require cancellationCategories
    (outcome.reasonReference ≠ none ∧ outcome.cancellationReference ≠ none)
    "cancellation audit requires bounded reason and cancellation references"
  event.require compensationCategories (outcome.compensationReference ≠ none)
    "compensation audit requires separate compensation reference"
  event.require [.executionCompleted] (outcome.resultReference ≠ none)
    "execution completion requires opaque result reference"
  event.require [.executionInvalidated] (outcome.invalidationReference ≠ none)
    "execution invalidation requires invalidation reference"
  event.require transitionCategories
    (execution.runtimeExecutionStateRecordId ≠ none ∧
      execution.runtimeStateTransitionRecordId ≠ none ∧ execution.stateRevision ≠ none)
    "state audit requires state record, transition, and revision"

/-- The scope of an event is the one its execution was requested in. -/
def RuntimeAuditScope.ofRequest (scope : RuntimeAuditScope) (request : RuntimeExecutionRequest) :
    Prop :=
  scope.runtimeExecutionRequestId = request.runtimeExecutionRequestId ∧
  scope.actorId = request.requesterActorId ∧
  scope.agentInstanceId = request.requesterAgentInstanceId ∧
  scope.onBehalfOfUserId = request.onBehalfOfUserId ∧
  scope.tenantId = request.tenantId ∧
  scope.organizationId = request.organizationId ∧
  scope.rootLineageId = request.lineageId ∧
  scope.rootLineageDigestReference = request.lineageDigestReference ∧
  scope.policyRevision = request.policyRevision ∧
  scope.authorizationRevision = request.authorizationRevision ∧
  scope.registryRevision = request.registryRevision

instance (scope : RuntimeAuditScope) (request : RuntimeExecutionRequest) :
    Decidable (scope.ofRequest request) :=
  inferInstanceAs (Decidable (_ ∧ _ ∧ _ ∧ _ ∧ _ ∧ _ ∧ _ ∧ _ ∧ _ ∧ _ ∧ _))

/-- The event refers to the exact authority it was recorded under. -/
def RuntimeAuditAuthorityReferences.ofBundle (references : RuntimeAuditAuthorityReferences)
    (authority : RuntimeAuthorityBundle) : Prop :=
  references.runtimeAuthorityBundleId = some authority.runtimeAuthorityBundleId ∧
  references.runtimeAdmissionDecisionId =
    some authority.admissionDecision.runtimeAdmissionDecisionId ∧
  references.reviewReferenceIds = authority.admissionDecision.reviewReferenceIds ∧
  references.approvalReferenceIds = authority.admissionDecision.approvalReferenceIds ∧
  references.authorizationReferenceIds = authority.admissionDecision.authorizationReferenceIds ∧
  references.permitReferenceIds = authority.admissionDecision.permitReferenceIds

instance (references : RuntimeAuditAuthorityReferences) (authority : RuntimeAuthorityBundle) :
    Decidable (references.ofBundle authority) :=
  inferInstanceAs (Decidable (_ ∧ _ ∧ _ ∧ _ ∧ _ ∧ _))

/-- The authority was granted in the scope of the event. -/
def RuntimeAuditScope.ofBundle (scope : RuntimeAuditScope) (request : RuntimeExecutionRequest)
    (authority : RuntimeAuthorityBundle) : Prop :=
  authority.executionRequest.runtimeExecutionRequestId = request.runtimeExecutionRequestId ∧
  authority.tenantId = scope.tenantId ∧
  authority.organizationId = scope.organizationId ∧
  authority.rootLineageId = scope.rootLineageId ∧
  authority.rootLineageDigestReference = scope.rootLineageDigestReference ∧
  authority.policyRevision = scope.policyRevision ∧
  authority.authorizationRevision = scope.authorizationRevision ∧
  authority.registryRevision = scope.registryRevision

instance (scope : RuntimeAuditScope) (request : RuntimeExecutionRequest)
    (authority : RuntimeAuthorityBundle) : Decidable (scope.ofBundle request authority) :=
  inferInstanceAs (Decidable (_ ∧ _ ∧ _ ∧ _ ∧ _ ∧ _ ∧ _ ∧ _))

/-- The decision an admission event reports. -/
def RuntimeAuditEventCategory.admissionStatus :
    RuntimeAuditEventCategory → Option RuntimeAuthorityDecisionStatus
  | .admissionGranted => some .admitted
  | .admissionDenied => some .denied
  | _ => none

/-- An event must agree with the request and the authority it was recorded under. -/
def validateRuntimeAuditEventAgainstAuthority (event : RuntimeAuditEvent)
    (request : RuntimeExecutionRequest) (authority : Option RuntimeAuthorityBundle) :
    Except RuntimeAuditError Unit := do
  rejectIf (¬ event.scope.ofRequest request)
    ⟨.scope, "audit scope differs from execution request"⟩
  rejectIf (¬ notLower event.scope.classification request.classification)
    ⟨.classification, "audit classification is below request"⟩
  match authority with
  | none => validateRuntimeAuditEvent event
  | some authority => do
    rejectIf (¬ event.authority.ofBundle authority)
      ⟨.reference, "audit authority references are not exact"⟩
    rejectIf (¬ event.scope.ofBundle request authority)
      ⟨.scope, "authority bundle crosses audit scope"⟩
    rejectIf (¬ notLower event.scope.classification authority.classification)
      ⟨.classification, "audit classification is below authority"⟩
    rejectIf (event.category.admissionStatus ≠ none ∧
        event.category.admissionStatus ≠ some authority.admissionDecision.decisionStatus)
      ⟨.reference, "admission audit category differs from decision"⟩
    validateRuntimeAuditEvent event

/-- The scope of an event is that of the plan it refers to. -/
def RuntimeAuditEvent.ofPlan (event : RuntimeAuditEvent) (plan : ExecutionPlan) : Prop :=
  event.execution.executionPlanId = some plan.executionPlanId ∧
  event.scope.runtimeExecutionRequestId = plan.runtimeExecutionRequestId ∧
  event.scope.actorId = plan.actorId ∧
  event.scope.agentInstanceId = plan.agentInstanceId ∧
  event.scope.onBehalfOfUserId = plan.onBehalfOfUserId ∧
  event.scope.tenantId = plan.tenantId ∧
  event.scope.organizationId = plan.organizationId ∧
  event.scope.rootLineageId = plan.rootLineageId ∧
  event.scope.rootLineageDigestReference = plan.rootLineageDigestReference ∧
  event.scope.policyRevision = plan.policyRevision ∧
  event.scope.authorizationRevision = plan.authorizationRevision ∧
  event.scope.registryRevision = plan.registryRevision

instance (event : RuntimeAuditEvent) (plan : ExecutionPlan) : Decidable (event.ofPlan plan) :=
  inferInstanceAs (Decidable (_ ∧ _ ∧ _ ∧ _ ∧ _ ∧ _ ∧ _ ∧ _ ∧ _ ∧ _ ∧ _ ∧ _))

/-- An event must agree with the plan it refers to. -/
def validateRuntimeAuditEventAgainstPlan (event : RuntimeAuditEvent) (plan : ExecutionPlan) :
    Except RuntimeAuditError Unit := do
  rejectIf (¬ event.ofPlan plan) ⟨.scope, "audit event differs from execution plan"⟩
  rejectIf (¬ notLower event.scope.classification plan.classification)
    ⟨.classification, "audit classification is below plan"⟩
  rejectIf (event.category = .planValidated ∧ plan.planStatus ≠ .validated)
    ⟨.reference, "validated audit requires validated plan"⟩
  rejectIf (event.category = .planValidated ∧
      event.execution.executionPlanValidationRecordId ∉
        plan.validationRecords.map fun item => some item.executionPlanValidationRecordId)
    ⟨.reference, "audit validation record is absent from plan"⟩
  rejectIf (event.execution.executionPlanStepId ≠ none ∧
      event.execution.executionPlanStepId ∉
        plan.steps.map fun item => some item.executionPlanStepId)
    ⟨.reference, "audit step is absent from plan"⟩
  validateRuntimeAuditEvent event

/-- The scope of an event is that of the state it refers to. -/
def RuntimeAuditEvent.ofState (event : RuntimeAuditEvent) (state : RuntimeExecutionStateRecord) :
    Prop :=
  event.execution.runtimeExecutionStateRecordId = some state.runtimeExecutionStateRecordId ∧
  event.execution.attemptId = some state.scope.attemptId ∧
  event.scope.runtimeExecutionRequestId = state.scope.runtimeExecutionRequestId ∧
  event.scope.tenantId = state.scope.tenantId ∧
  event.scope.organizationId = state.scope.organizationId ∧
  event.scope.rootLineageId = state.scope.rootLineageId ∧
  event.scope.rootLineageDigestReference = state.scope.rootLineageDigestReference ∧
  event.scope.policyRevision = state.scope.policyRevision ∧
  event.scope.authorizationRevision = state.scope.authorizationRevision ∧
  event.scope.registryRevision = state.scope.registryRevision

instance (event : RuntimeAuditEvent) (state : RuntimeExecutionStateRecord) :
    Decidable (event.ofState state) :=
  inferInstanceAs (Decidable (_ ∧ _ ∧ _ ∧ _ ∧ _ ∧ _ ∧ _ ∧ _ ∧ _ ∧ _))

/-- The states an event of a category may report, where it reports one. -/
def RuntimeAuditEventCategory.transitionStates :
    RuntimeAuditEventCategory → Option (List RuntimeExecutionState)
  | .executionStarted => some [.running]
  | .cancellationRequested => some [.cancelPending]
  | .executionCancelled => some [.cancelled]
  | .executionCompleted => some [.succeeded, .failed, .timedOut, .compensated]
  | .executionInvalidated => some [.invalidated]
  | _ => none

/-- An event must agree with the state it refers to, and with the transition. -/
def validateRuntimeAuditEventAgainstState (event : RuntimeAuditEvent)
    (state : RuntimeExecutionStateRecord) (transition : Option RuntimeStateTransitionRecord) :
    Except RuntimeAuditError Unit := do
  rejectIf (¬ event.ofState state) ⟨.scope, "audit event differs from execution state"⟩
  rejectIf (¬ notLower event.scope.classification state.scope.classification)
    ⟨.classification, "audit classification is below state"⟩
  match transition with
  | none => do
    rejectIf (event.execution.runtimeStateTransitionRecordId ≠ none)
      ⟨.reference, "audit transition was not supplied"⟩
    validateRuntimeAuditEvent event
  | some transition => do
    rejectIf (transition ∉ state.transitions)
      ⟨.reference, "audit transition is absent from state history"⟩
    rejectIf (event.execution.runtimeStateTransitionRecordId ≠
          some transition.runtimeStateTransitionRecordId ∨
        event.execution.stateRevision ≠ some transition.resultingRevision)
      ⟨.revision, "audit transition revision is not exact"⟩
    rejectIf (transition.toState ∉
        event.category.transitionStates.getD [transition.toState])
      ⟨.reference, "audit category differs from supplied transition"⟩
    validateRuntimeAuditEvent event

/-- The resolution was made for the request, in the snapshot. -/
def resolutionChainExact (snapshot : RuntimeActionRegistrySnapshot)
    (request : RuntimeActionResolutionRequest) (decision : RuntimeActionResolutionDecision) :
    Prop :=
  decision.runtimeActionResolutionRequestId = request.runtimeActionResolutionRequestId ∧
  decision.snapshotReference = request.snapshotReference ∧
  request.snapshotReference.runtimeRegistrySnapshotId = snapshot.runtimeRegistrySnapshotId ∧
  request.snapshotReference.registryRevision = snapshot.registryRevision ∧
  request.snapshotReference.snapshotDigestReference = snapshot.snapshotDigestReference

instance (snapshot : RuntimeActionRegistrySnapshot) (request : RuntimeActionResolutionRequest)
    (decision : RuntimeActionResolutionDecision) :
    Decidable (resolutionChainExact snapshot request decision) :=
  inferInstanceAs (Decidable (_ ∧ _ ∧ _ ∧ _ ∧ _))

/-- The event refers to the exact entry of the snapshot. -/
def RuntimeAuditEvent.ofEntry (event : RuntimeAuditEvent)
    (snapshot : RuntimeActionRegistrySnapshot) (decision : RuntimeActionResolutionDecision)
    (entry : RuntimeRegistrySnapshotEntry) : Prop :=
  event.action.runtimeRegistrySnapshotId = some snapshot.runtimeRegistrySnapshotId ∧
  event.action.registryRevision = some snapshot.registryRevision ∧
  event.action.runtimeActionResolutionDecisionId =
    some decision.runtimeActionResolutionDecisionId ∧
  event.action.runtimeRegistrySnapshotEntryId = some entry.runtimeRegistrySnapshotEntryId ∧
  event.action.actionDefinitionId = some entry.actionDefinition.identity.actionDefinitionId ∧
  event.action.actionVersion = some entry.actionDefinition.identity.actionVersion ∧
  event.action.action = some entry.actionDefinition.identity.action ∧
  event.scope.tenantId = snapshot.tenantId ∧
  event.scope.organizationId = snapshot.organizationId ∧
  event.scope.rootLineageId = snapshot.rootLineageId ∧
  event.scope.rootLineageDigestReference = snapshot.rootLineageDigestReference

instance (event : RuntimeAuditEvent) (snapshot : RuntimeActionRegistrySnapshot)
    (decision : RuntimeActionResolutionDecision) (entry : RuntimeRegistrySnapshotEntry) :
    Decidable (event.ofEntry snapshot decision entry) :=
  inferInstanceAs (Decidable (_ ∧ _ ∧ _ ∧ _ ∧ _ ∧ _ ∧ _ ∧ _ ∧ _ ∧ _ ∧ _))

/-- An event must agree with the registry entry its action was resolved to. -/
def validateRuntimeAuditEventAgainstRegistry (event : RuntimeAuditEvent)
    (snapshot : RuntimeActionRegistrySnapshot) (request : RuntimeActionResolutionRequest)
    (decision : RuntimeActionResolutionDecision) : Except RuntimeAuditError Unit := do
  rejectIf (decision.decisionStatus ≠ .resolved)
    ⟨.reference, "action audit requires resolved registry decision"⟩
  rejectIf (¬ resolutionChainExact snapshot request decision)
    ⟨.reference, "registry resolution chain is not exact"⟩
  match snapshot.entries.find? fun item =>
      some item.runtimeRegistrySnapshotEntryId = decision.resolvedSnapshotEntryId with
  | none => .error ⟨.reference, "action audit requires active resolved entry"⟩
  | some entry => do
    rejectIf (entry.status ≠ .active)
      ⟨.reference, "action audit requires active resolved entry"⟩
    rejectIf (¬ event.ofEntry snapshot decision entry)
      ⟨.reference, "audit registry or action references are not exact"⟩
    rejectIf (¬ notLower event.scope.classification decision.classification)
      ⟨.classification, "audit classification is below registry decision"⟩
    validateRuntimeAuditEvent event

/-- Two scopes are the same but for their classification. -/
def RuntimeAuditScope.sameAs (scope other : RuntimeAuditScope) : Prop :=
  { scope with classification := other.classification } = other

instance (scope other : RuntimeAuditScope) : Decidable (scope.sameAs other) :=
  inferInstanceAs (Decidable (_ = _))

/-- How far a trail has been read: the next sequence number and the event before
it. -/
structure TrailProgress where
  expectedSequence : Nat
  previous : Option RuntimeAuditEvent

/-- An event must follow the event before it. -/
def validateAuditPredecessor (event previous : RuntimeAuditEvent) :
    Except RuntimeAuditError Unit := do
  rejectIf (event.previousEventId ≠ some previous.runtimeAuditEventId ∨
      event.previousEventDigestReference ≠ some previous.eventDigestReference)
    ⟨.chain, "audit predecessor chain is inconsistent"⟩
  rejectIf (event.occurredAt < previous.occurredAt)
    ⟨.timestamp, "audit event timestamp decreased"⟩
  rejectIf (¬ notLower event.scope.classification previous.scope.classification)
    ⟨.classification, "audit event classification decreased"⟩

/-- Read one event of a trail. -/
def validateTrailEvent (trail : RuntimeAuditTrail) (progress : TrailProgress)
    (event : RuntimeAuditEvent) : Except RuntimeAuditError TrailProgress := do
  validateRuntimeAuditEvent event
  rejectIf (event.sequence.val ≠ progress.expectedSequence)
    ⟨.sequence, "audit event sequence is discontinuous"⟩
  rejectIf (event.contractVersion ≠ trail.contractVersion ∨ ¬ event.scope.sameAs trail.scope)
    ⟨.scope, "audit event crosses trail scope"⟩
  rejectIf (¬ notLower trail.scope.classification event.scope.classification)
    ⟨.classification, "trail classification is below event"⟩
  match progress.previous with
  | none => .ok ()
  | some previous => validateAuditPredecessor event previous
  pure { expectedSequence := progress.expectedSequence + 1, previous := some event }

/-- A trail must be one chain of events of one execution. -/
def validateRuntimeAuditTrail (trail : RuntimeAuditTrail) : Except RuntimeAuditError Unit := do
  rejectIf (trail.trailRevision.val ≠ trail.events.length)
    ⟨.revision, "trail revision must equal append count"⟩
  rejectIf (¬ (trail.events.map (·.runtimeAuditEventId)).Nodup ∨
      ¬ (trail.events.map (·.eventDigestReference)).Nodup)
    ⟨.canonicalOrder, "event identities and digests must be unique"⟩
  let _ ← trail.events.foldlM (validateTrailEvent trail) ⟨1, none⟩
  rejectIf (trail.createdAt ≠ (trail.events.head trail.nonempty).occurredAt)
    ⟨.timestamp, "trail creation must equal first event timestamp"⟩
  rejectIf (trail.updatedAt ≠ trail.latest.occurredAt)
    ⟨.timestamp, "trail update must equal last event timestamp"⟩

/-- A trail must be another one with exactly one event appended. -/
def validateRuntimeAuditAppend (previous current : RuntimeAuditTrail) :
    Except RuntimeAuditError Unit := do
  validateRuntimeAuditTrail previous
  validateRuntimeAuditTrail current
  rejectIf ((current.runtimeAuditTrailId, current.contractVersion, current.createdAt) ≠
      (previous.runtimeAuditTrailId, previous.contractVersion, previous.createdAt))
    ⟨.appendOnly, "audit trail identity or creation changed"⟩
  rejectIf (current.trailRevision.val ≠ previous.trailRevision.val + 1)
    ⟨.revision, "audit append must increment revision exactly once"⟩
  rejectIf (current.events.length ≠ previous.events.length + 1)
    ⟨.appendOnly, "audit append must add exactly one event"⟩
  rejectIf (current.events.dropLast ≠ previous.events)
    ⟨.appendOnly, "audit append modified existing event prefix"⟩
  rejectIf (current.trailDigestReference = previous.trailDigestReference)
    ⟨.chain, "audit append requires a new trail digest reference"⟩
  rejectIf (¬ current.scope.sameAs previous.scope)
    ⟨.scope, "audit append changed immutable scope"⟩
  rejectIf (¬ notLower current.scope.classification previous.scope.classification)
    ⟨.classification, "audit append lowered classification"⟩

end PolicyOS.Runtime
