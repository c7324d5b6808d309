import PolicyOS.Runtime.Orchestration.StateAppend
import PolicyOS.Runtime.Persistence.RegistryReadBack

/-!
# Submission stages

What one mutation of the API stages inside its caller's transaction. A stage is closed: its
binding is exact, a submission brings one atomic write set and at most one logical result, and a
reconciliation brings a request and neither.
-/

namespace PolicyOS.Runtime

open Foundation

/-- Whether a submission also writes a logical result. -/
inductive RuntimeApiLogicalExecutionResultMutation
  | absent
  | present (logicalExecutionResult : RuntimeApiLogicalExecutionResult)
  deriving DecidableEq

/-- The write set of a submission whose effect is delivered. -/
structure RuntimeEffectAtomicWriteSet where
  baseWriteSet : RuntimeAtomicWriteSet
  initialEffectEnqueue : RuntimeInitialEffectEnqueue
  deriving DecidableEq

/-- The initial effect must be of the base write set, and not after it. -/
def validateRuntimeEffectAtomicWriteSet (writeSet : RuntimeEffectAtomicWriteSet) :
    Except RuntimePortError Unit := do
  let initial := writeSet.initialEffectEnqueue
  let base := writeSet.baseWriteSet
  let identity := initial.effectIdentity
  validateRuntimeInitialEffectEnqueue initial
  validateRuntimeAtomicWriteSet base
  rejectIf (base.outboxEnqueueRecord ≠ some initial.outboxEnqueueRecord)
    ⟨.transaction, "initial effect outbox differs from base write set"⟩
  rejectIf (identity.originatingTransactionId ≠ base.runtimeTransactionId ∨
      identity.originatingTransactionReceiptId ≠ base.commitFacts.runtimeTransactionReceiptId)
    ⟨.transaction, "initial effect transaction binding differs"⟩
  rejectIf (initial.contractVersion ≠ base.contractVersion)
    ⟨.transaction, "effect and base contract versions differ"⟩
  rejectIf (base.requestedAt < max (max initial.deliveryEnvelope.createdAt
      initial.initialLifecycleRecord.recordedAt) initial.outboxEnqueueRecord.enqueuedAt)
    ⟨.timestamp, "atomic effect request predates initial facts"⟩

/-- The operations that may stage. -/
inductive RuntimeApiLocalWriteSetOperation
  | submitInvocation | getInvocation | requestReconciliation
  deriving DecidableEq

/-- The write set of a submission, with an effect to deliver or without. -/
inductive RuntimeApiSubmissionWriteSet
  | plain (writeSet : RuntimeAtomicWriteSet)
  | effect (writeSet : RuntimeEffectAtomicWriteSet)
  deriving DecidableEq

/-- The facts that are committed whether or not an effect is delivered. -/
def RuntimeApiSubmissionWriteSet.baseWriteSet : RuntimeApiSubmissionWriteSet → RuntimeAtomicWriteSet
  | .plain writeSet => writeSet
  | .effect writeSet => writeSet.baseWriteSet

/-- What a stage is made of. -/
structure RuntimeApiLocalWriteSetFields where
  localWriteSetId : UUID
  transportReceiptId : UUID
  operation : RuntimeApiLocalWriteSetOperation
  binding : RuntimeApiPersistenceBindingRead
  writeSetDigestReference : BoundedId
  logicalExecutionResult : RuntimeApiLogicalExecutionResultMutation
  writeSet : Option RuntimeApiSubmissionWriteSet := none
  reconciliationRequest : Option RuntimeEffectReconciliationRequest := none
  stagedAt : DateTime
  deriving DecidableEq

/-- A submission that is delivered comes with the facts of its effect. -/
def validateSubmissionEffect : RuntimeApiSubmissionWriteSet → Except RuntimePortError Unit
  | .effect writeSet => validateRuntimeEffectAtomicWriteSet writeSet
  | .plain writeSet =>
    rejectIf (writeSet.outboxEnqueueRecord ≠ none)
      (refused "deliverable Runtime API submission requires initial effect facts")

/-- The scope a key was reserved in is that of the binding, but for its classification. -/
def RuntimePortScope.boundBy (scope : RuntimePortScope)
    (binding : RuntimeApiPersistenceBindingRead) : Prop :=
  scope.tenantId = binding.scope.tenantId ∧
  scope.organizationId = binding.scope.organizationId ∧
  scope.rootLineageId = binding.scope.rootLineageId ∧
  scope.rootLineageDigestReference = binding.scope.rootLineageDigestReference ∧
  scope.runtimeExecutionRequestId = binding.executionRequest.recordId ∧
  scope.runtimeAuthorityBundleId = binding.authorityBundle.recordId ∧
  scope.runtimeAdmissionDecisionId = binding.admission.recordId ∧
  scope.registryRevision = binding.registry.registryRevision

instance (scope : RuntimePortScope) (binding : RuntimeApiPersistenceBindingRead) :
    Decidable (scope.boundBy binding) :=
  inferInstanceAs (Decidable (_ ∧ _ ∧ _ ∧ _ ∧ _ ∧ _ ∧ _ ∧ _))

/-- The write set of a submission must be of the binding, and not below it. -/
def validateSubmissionWriteSet (binding : RuntimeApiPersistenceBindingRead)
    (writeSet : RuntimeApiSubmissionWriteSet) : Except RuntimePortError Unit := do
  validateSubmissionEffect writeSet
  let base := writeSet.baseWriteSet
  let reservation := base.idempotencyReservation
  let identity := binding.registryResolutionAdmission.resolutionRequest.actionIdentity
  rejectIf (¬ reservation.scope.boundBy binding)
    (refused "atomic write set differs from exact persistence binding")
  rejectIf (¬ notLower reservation.scope.classification binding.scope.classification)
    (refused "atomic write set classification is below its execution request")
  rejectIf (base.expectedStateRevision ≠ binding.executionState.expectedRevision ∨
      base.expectedAuditRevision ≠ binding.auditTrail.expectedRevision)
    (refused "atomic write set uses stale expected revisions")
  rejectIf (reservation.actionDefinitionId ≠ identity.actionDefinitionId ∨
      reservation.action ≠ identity.action ∨ reservation.actionVersion ≠ identity.actionVersion)
    (refused "atomic write set action differs from resolved action")

/-- The request to reconcile must be of the binding. -/
def validateReconciliationWriteSet (binding : RuntimeApiPersistenceBindingRead)
    (request : RuntimeEffectReconciliationRequest) : Except RuntimePortError Unit :=
  rejectIf (request.tenantId ≠ binding.scope.tenantId ∨
      request.organizationId ≠ binding.scope.organizationId ∨
      request.classification ≠ binding.scope.classification ∨
      request.runtimeAuthorityBundleId ≠ binding.authorityBundle.recordId ∨
      request.runtimeAdmissionDecisionId ≠ binding.admission.recordId ∨
      request.permitReferenceIds ≠ binding.permits.map (·.permitId))
    (refused "reconciliation request differs from exact persistence binding")

/-- The result is of the exact records of the submission. -/
def RuntimeApiLogicalExecutionResult.ofSubmission (result : RuntimeApiLogicalExecutionResult)
    (binding : RuntimeApiPersistenceBindingRead) (writeSet : RuntimeAtomicWriteSet) : Prop :=
  result.executionRequest = binding.executionRequest ∧
  result.executionRequestClassification = binding.scope.classification ∧
  result.executionState.recordId = writeSet.stateRecord.runtimeExecutionStateRecordId ∧
  result.executionState.expectedRevision = writeSet.stateRecord.currentRevision ∧
  result.auditTrail.recordId = writeSet.auditTrail.runtimeAuditTrailId ∧
  result.auditTrail.expectedRevision = writeSet.auditTrail.trailRevision ∧
  result.attemptId = writeSet.stateRecord.scope.attemptId ∧
  result.scope.tenantId = binding.scope.tenantId ∧
  result.scope.organizationId = binding.scope.organizationId ∧
  result.scope.rootLineageId = binding.scope.rootLineageId ∧
  result.scope.rootLineageDigestReference = binding.scope.rootLineageDigestReference

instance (result : RuntimeApiLogicalExecutionResult) (binding : RuntimeApiPersistenceBindingRead)
    (writeSet : RuntimeAtomicWriteSet) : Decidable (result.ofSubmission binding writeSet) :=
  inferInstanceAs (Decidable (_ ∧ _ ∧ _ ∧ _ ∧ _ ∧ _ ∧ _ ∧ _ ∧ _ ∧ _ ∧ _))

/-- The state and the audit trail of a submission are in the scope of its result. -/
def RuntimeApiLogicalExecutionResult.scopes (result : RuntimeApiLogicalExecutionResult)
    (binding : RuntimeApiPersistenceBindingRead) (writeSet : RuntimeAtomicWriteSet) : Prop :=
  let state := writeSet.stateRecord.scope
  let audit := writeSet.auditTrail.scope
  state.runtimeExecutionRequestId = binding.executionRequest.recordId ∧
  audit.runtimeExecutionRequestId = binding.executionRequest.recordId ∧
  state.tenantId = binding.scope.tenantId ∧
  state.organizationId = binding.scope.organizationId ∧
  state.classification = result.scope.classification ∧
  state.rootLineageId = binding.scope.rootLineageId ∧
  state.rootLineageDigestReference = binding.scope.rootLineageDigestReference ∧
  audit.tenantId = binding.scope.tenantId ∧
  audit.organizationId = binding.scope.organizationId ∧
  audit.classification = result.scope.classification ∧
  audit.rootLineageId = binding.scope.rootLineageId ∧
  audit.rootLineageDigestReference = binding.scope.rootLineageDigestReference

instance (result : RuntimeApiLogicalExecutionResult) (binding : RuntimeApiPersistenceBindingRead)
    (writeSet : RuntimeAtomicWriteSet) : Decidable (result.scopes binding writeSet) :=
  inferInstanceAs (Decidable (_ ∧ _ ∧ _ ∧ _ ∧ _ ∧ _ ∧ _ ∧ _ ∧ _ ∧ _ ∧ _ ∧ _))

/-- A result that is written must be of the submission, and not before it. -/
def validateSubmissionLogicalResult (binding : RuntimeApiPersistenceBindingRead)
    (writeSet : RuntimeAtomicWriteSet) :
    RuntimeApiLogicalExecutionResultMutation → Except RuntimePortError Unit
  | .absent => .ok ()
  | .present result => do
      rejectIf (¬ result.ofSubmission binding writeSet)
        (refused "logical result differs from exact submission records")
      rejectIf (¬ result.scopes binding writeSet)
        (refused "logical result scope or lineage differs from submission")
      rejectIf (¬ notLower result.scope.classification result.executionRequestClassification)
        (refused "logical result classification is below its execution request")
      rejectIf (result.producedAt < max (max writeSet.stateRecord.updatedAt
          writeSet.auditTrail.updatedAt) writeSet.requestedAt)
        (refused "logical result predates its exact state or audit revision")

/-- A submission stages one write set, and with it at most one logical result. -/
def closedSubmission (fields : RuntimeApiLocalWriteSetFields) : Except RuntimePortError Unit :=
  match fields.writeSet, fields.reconciliationRequest with
  | some writeSet, none => do
      validateSubmissionWriteSet fields.binding writeSet
      validateSubmissionLogicalResult fields.binding writeSet.baseWriteSet
        fields.logicalExecutionResult
      rejectIf (fields.stagedAt < max fields.binding.requestedAt writeSet.baseWriteSet.requestedAt)
        (refused "write-set stage predates its bound facts")
  | _, _ => .error (refused "submission requires exactly one atomic write set")

/-- A reconciliation stages one request to reconcile, and no logical result. -/
def closedReconciliation (fields : RuntimeApiLocalWriteSetFields) : Except RuntimePortError Unit :=
  match fields.writeSet, fields.reconciliationRequest with
  | none, some request => do
      validateReconciliationWriteSet fields.binding request
      rejectIf (fields.logicalExecutionResult ≠ .absent)
        (refused "reconciliation cannot mutate a logical execution result")
      rejectIf (fields.stagedAt < max fields.binding.requestedAt request.requestedAt)
        (refused "write-set stage predates its bound facts")
  | _, _ => .error (refused "reconciliation requires exactly one reconciliation request")

/-- The facts of a stage must agree with each other. -/
def closedWriteSet (fields : RuntimeApiLocalWriteSetFields) : Except RuntimePortError Unit := do
  validateExactBinding fields.binding
  rejectIf (fields.localWriteSetId = fields.transportReceiptId)
    (refused "local write set and transport receipt must be distinct")
  match fields.operation with
  | .getInvocation => .error (refused "read-only operation cannot stage a local write set")
  | .submitInvocation => closedSubmission fields
  | .requestReconciliation => closedReconciliation fields

/-- What one mutation stages. -/
structure RuntimeApiLocalWriteSetStage extends RuntimeApiLocalWriteSetFields where
  closed : closedWriteSet toRuntimeApiLocalWriteSetFields = .ok ()
  deriving DecidableEq

/-! ## What a submission advances -/

/-- The base write set advances the records the binding names by one revision, and nothing in it
is below the scope of the binding. -/
structure AdvancesBound (binding : RuntimeApiPersistenceBindingRead)
    (writeSet : RuntimeAtomicWriteSet) : Prop where
  state : writeSet.stateRecord.runtimeExecutionStateRecordId = binding.executionState.recordId
  stateRevision : writeSet.stateRecord.currentRevision.val =
    binding.executionState.expectedRevision.val + 1
  audit : writeSet.auditTrail.runtimeAuditTrailId = binding.auditTrail.recordId
  auditRevision : writeSet.auditTrail.trailRevision.val =
    binding.auditTrail.expectedRevision.val + 1
  notLowered : ∀ classification ∈ [writeSet.stateRecord.scope.classification,
      writeSet.auditTrail.scope.classification,
      writeSet.idempotencyReservation.scope.classification] ++
      (writeSet.outboxEnqueueRecord.map (·.scope.classification)).toList,
    notLower classification binding.scope.classification

/-- What no check of a stage looks at: the names of the two records, their revisions if no effect
is delivered, and their classifications if no result is written. -/
structure UncheckedFactsAgree (stage : RuntimeApiLocalWriteSetStage)
    (writeSet : RuntimeApiSubmissionWriteSet) : Prop where
  state : writeSet.baseWriteSet.stateRecord.runtimeExecutionStateRecordId =
    stage.binding.executionState.recordId
  audit : writeSet.baseWriteSet.auditTrail.runtimeAuditTrailId = stage.binding.auditTrail.recordId
  revisions : ∀ plain, writeSet = .plain plain →
    plain.stateRecord.currentRevision.val = plain.expectedStateRevision.val + 1 ∧
      plain.auditTrail.trailRevision.val = plain.expectedAuditRevision.val + 1
  classifications : stage.logicalExecutionResult = .absent →
    notLower writeSet.baseWriteSet.stateRecord.scope.classification
        stage.binding.scope.classification ∧
      notLower writeSet.baseWriteSet.auditTrail.scope.classification
        stage.binding.scope.classification

/-- A submission with an effect is validated as an atomic write set; one without has no outbox. -/
theorem base_of_validateSubmissionEffect {writeSet : RuntimeApiSubmissionWriteSet}
    (accepted : validateSubmissionEffect writeSet = .ok ()) :
    ((∀ plain, writeSet ≠ .plain plain) →
        validateRuntimeAtomicWriteSet writeSet.baseWriteSet = .ok ()) ∧
      ∀ outbox ∈ writeSet.baseWriteSet.outboxEnqueueRecord,
        outbox.scope = writeSet.baseWriteSet.idempotencyReservation.scope := by
  cases writeSet with
  | plain plain =>
      simp only [validateSubmissionEffect, rejectIf_eq_ok_iff, ne_eq, not_not] at accepted
      refine ⟨fun effect => absurd rfl (effect plain), ?_⟩
      simp [RuntimeApiSubmissionWriteSet.baseWriteSet, accepted]
  | effect effect =>
      simp only [validateSubmissionEffect, validateRuntimeEffectAtomicWriteSet, bind_eq_ok_iff,
        exists_unit_iff] at accepted
      obtain ⟨-, base, -⟩ := accepted
      refine ⟨fun _ => base, fun outbox isOutbox => ?_⟩
      simp only [validateRuntimeAtomicWriteSet, bind_eq_ok_iff, exists_unit_iff, rejectIf_eq_ok_iff,
        not_exists, not_and, not_not] at base
      obtain ⟨-, -, -, -, -, -, ofWriteSet, -⟩ := base
      exact (ofWriteSet outbox isOutbox).1

/-- The base write set of an effect advances the revisions it expects. -/
theorem revisions_of_validateRuntimeAtomicWriteSet {writeSet : RuntimeAtomicWriteSet}
    (accepted : validateRuntimeAtomicWriteSet writeSet = .ok ()) :
    writeSet.stateRecord.currentRevision.val = writeSet.expectedStateRevision.val + 1 ∧
      writeSet.auditTrail.trailRevision.val = writeSet.expectedAuditRevision.val + 1 := by
  simp only [validateRuntimeAtomicWriteSet, bind_eq_ok_iff, exists_unit_iff, rejectIf_eq_ok_iff,
    ne_eq, not_not] at accepted
  exact ⟨accepted.1, accepted.2.1⟩

/-- A result that is written keeps the state and the audit trail above the binding. -/
theorem notLower_of_validateSubmissionLogicalResult {binding : RuntimeApiPersistenceBindingRead}
    {writeSet : RuntimeAtomicWriteSet} {mutation : RuntimeApiLogicalExecutionResultMutation}
    (accepted : validateSubmissionLogicalResult binding writeSet mutation = .ok ())
    (present : mutation ≠ .absent) :
    notLower writeSet.stateRecord.scope.classification binding.scope.classification ∧
      notLower writeSet.auditTrail.scope.classification binding.scope.classification := by
  cases mutation with
  | absent => exact absurd rfl present
  | present result =>
      simp only [validateSubmissionLogicalResult, bind_eq_ok_iff, exists_unit_iff,
        rejectIf_eq_ok_iff, not_not] at accepted
      obtain ⟨ofSubmission, scopes, above, -⟩ := accepted
      rw [ofSubmission.2.1] at above
      rw [scopes.2.2.2.2.1, scopes.2.2.2.2.2.2.2.2.2.1]
      exact ⟨above, above⟩

/-- A stage of a submission advances the bound records exactly if what its checks leave open
agrees. -/
theorem advancesBound_iff (stage : RuntimeApiLocalWriteSetStage)
    (writeSet : RuntimeApiSubmissionWriteSet) (operation : stage.operation = .submitInvocation)
    (written : stage.writeSet = some writeSet) :
    AdvancesBound stage.binding writeSet.baseWriteSet ↔ UncheckedFactsAgree stage writeSet := by
  have closed := stage.closed
  simp only [closedWriteSet, bind_eq_ok_iff, exists_unit_iff, operation] at closed
  obtain ⟨-, -, closed⟩ := closed
  simp only [closedSubmission, written] at closed
  split at closed
  case h_2 => cases closed
  case h_1 submitted isSubmitted _ =>
    cases isSubmitted
    simp only [bind_eq_ok_iff, exists_unit_iff, validateSubmissionWriteSet, rejectIf_eq_ok_iff,
      not_not, not_or, ne_eq] at closed
    obtain ⟨⟨effect, -, reserved, ⟨expectedState, expectedAudit⟩, -⟩, result, -⟩ := closed
    obtain ⟨validated, outboxScope⟩ := base_of_validateSubmissionEffect effect
    constructor
    · intro advances
      refine ⟨advances.state, advances.audit, ?_, fun _ => ?_⟩
      · rintro plain rfl
        exact ⟨expectedState ▸ advances.stateRevision, expectedAudit ▸ advances.auditRevision⟩
      · exact ⟨advances.notLowered _ (by simp), advances.notLowered _ (by simp)⟩
    · intro agree
      have revisions : writeSet.baseWriteSet.stateRecord.currentRevision.val =
            writeSet.baseWriteSet.expectedStateRevision.val + 1 ∧
          writeSet.baseWriteSet.auditTrail.trailRevision.val =
            writeSet.baseWriteSet.expectedAuditRevision.val + 1 := by
        cases writeSet with
        | plain plain => exact agree.revisions plain rfl
        | effect effect =>
            exact revisions_of_validateRuntimeAtomicWriteSet (validated fun _ => by simp)
      have above : notLower writeSet.baseWriteSet.stateRecord.scope.classification
            stage.binding.scope.classification ∧
          notLower writeSet.baseWriteSet.auditTrail.scope.classification
            stage.binding.scope.classification := by
        by_cases absent : stage.logicalExecutionResult = .absent
        · exact agree.classifications absent
        · exact notLower_of_validateSubmissionLogicalResult result absent
      refine ⟨agree.state, expectedState ▸ revisions.1, agree.audit, expectedAudit ▸ revisions.2, ?_⟩
      simp only [List.forall_mem_append, List.forall_mem_cons, Option.mem_toList]
      refine ⟨⟨above.1, above.2, reserved, by simp⟩, fun classification isOf => ?_⟩
      obtain ⟨outbox, isOutbox, rfl⟩ := Option.map_eq_some_iff.mp isOf
      rw [outboxScope outbox isOutbox]
      exact reserved

namespace ApiSample

/-- The stage that submits the success of the running execution. -/
def submission : RuntimeApiLocalWriteSetStage where
  localWriteSetId := 60
  transportReceiptId := 61
  operation := .submitInvocation
  binding := binding
  writeSetDigestReference := "write-set"
  logicalExecutionResult := .absent
  writeSet := some (.plain CommittedTransition.writeSet)
  stagedAt := 8
  closed := by decide +kernel

/-- The same success under a binding that names another state record. -/
def otherSubmission : RuntimeApiLocalWriteSetStage :=
  { submission with
    binding := { binding with executionState := ⟨98, .nearest 7⟩ }
    closed := by decide +kernel }

end ApiSample

open ApiSample in
/-- The submission advances the records it is bound to. -/
theorem advancesBound_submission : AdvancesBound binding CommittedTransition.writeSet :=
  (advancesBound_iff submission (.plain CommittedTransition.writeSet) rfl rfl).mpr
    ⟨rfl, rfl, by rintro _ ⟨⟩; exact ⟨rfl, rfl⟩, fun _ => ⟨by decide, by decide⟩⟩

open ApiSample in
/-- A stage is accepted whose state record is not the one its binding names. -/
theorem not_advancesBound : ¬ ∀ (stage : RuntimeApiLocalWriteSetStage)
    (writeSet : RuntimeApiSubmissionWriteSet), stage.operation = .submitInvocation →
      stage.writeSet = some writeSet → AdvancesBound stage.binding writeSet.baseWriteSet := by
  intro advances
  exact absurd (advances otherSubmission (.plain CommittedTransition.writeSet) rfl rfl).state (by decide)

end PolicyOS.Runtime
