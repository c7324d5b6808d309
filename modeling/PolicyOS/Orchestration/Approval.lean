import PolicyOS.Orchestration.Integration

/-!
# Approval of an integration

A human decides on the integration of the Secretary. The decision names the integration it
is about, the actor is authorized and takes no other part in it, and neither the decision nor
its request was used before.
-/

namespace PolicyOS.Orchestration

open Foundation Intelligence

/-- What is decided. -/
inductive ApprovalDecision
  | approved | rejected | changesRequested
  deriving DecidableEq, Repr

/-- The serialized decision. -/
def ApprovalDecision.value : ApprovalDecision → String
  | approved => "approved"
  | rejected => "rejected"
  | changesRequested => "changes_requested"

/-- What kind of actor decides. -/
inductive ApprovalActorKind
  | human | machine | synthetic
  deriving DecidableEq, Repr

/-- The exception classes of an approval. -/
inductive ApprovalErrorKind
  | acknowledgement | actor | authorization | classificationMismatch | decision | duplicate
  | eligibility | identityMismatch | separationOfDuties | tenantMismatch | timestamp
  deriving DecidableEq, Repr

/-- A typed failure of an approval with its message. -/
structure ApprovalError where
  kind : ApprovalErrorKind
  message : String
  deriving DecidableEq, Repr

/-- What an actor is known to be and allowed to do. -/
structure ApprovalAuthorizationEvidence where
  actorId : String
  actorKind : ApprovalActorKind
  organizationId : UUID
  classification : DataClassification
  permissionKeys : List String
  canonicalPermissions : permissionKeys.length ≤ 50 ∧
    sortedSet permissionKeys = permissionKeys := by decide +kernel

/-- The permission an approval needs. -/
def secretaryIntegrationApprovalPermission : String :=
  "orchestration.secretary_integration.approve"

/-- The request of an approval. -/
structure SecretaryIntegrationApprovalRequest where
  approvalRequestId : UUID
  integrationId : UUID
  coordinationId : UUID
  organizationId : UUID
  classification : DataClassification
  requestedByActorId : String
  requestedAt : DateTime
  sourceIntegrationStatus : SecretaryIntegrationStatus
  sourceIntegratedAt : DateTime
  sourceWorkProductIds : List UUID
  requiredPermission : String := secretaryIntegrationApprovalPermission
  canonicalProducts : sourceWorkProductIds.length ≤ 50 ∧ sourceWorkProductIds.Nodup := by decide
  validTime : sourceIntegratedAt ≤ requestedAt := by decide

/-- The trusted scope of an approval. -/
structure SecretaryIntegrationApprovalContext where
  approvalRequestId : UUID
  integrationId : UUID
  coordinationId : UUID
  organizationId : UUID
  classification : DataClassification
  expectedRequesterActorId : String
  secretaryActorId : String
  specialistActorIds : List String := []
  authorizedApproverActorId : String
  authorization : ApprovalAuthorizationEvidence
  allowedDecisions : List ApprovalDecision
  approvalPolicyId : String
  decidedAt : DateTime
  canonicalSpecialists : specialistActorIds.length ≤ 50 ∧
    sortedSet specialistActorIds = specialistActorIds := by decide +kernel
  canonicalDecisions : allowedDecisions ≠ [] ∧
    canonicalBy ApprovalDecision.value allowedDecisions := by decide +kernel

/-- Identifiers a decision takes note of. -/
def canonicalAcknowledgements (ids : List String) : Prop :=
  ids.length ≤ 100 ∧ sortedSet ids = ids

instance decidableCanonicalAcknowledgements (ids : List String) :
    Decidable (canonicalAcknowledgements ids) :=
  inferInstanceAs (Decidable (_ ∧ _))

/-- The decision of a human. -/
structure HumanApprovalDecisionInput where
  approvalRecordId : UUID
  approvalRequestId : UUID
  decisionId : UUID
  integrationId : UUID
  decision : ApprovalDecision
  approverActorId : String
  decidedAt : DateTime
  reason : Option String := none
  acknowledgedConflictIds : List String := []
  acknowledgedGapIds : List String := []
  acknowledgedReviewTaskIds : List String := []
  canonical : canonicalAcknowledgements acknowledgedConflictIds ∧
    canonicalAcknowledgements acknowledgedGapIds ∧
    canonicalAcknowledgements acknowledgedReviewTaskIds := by decide +kernel
  reasonForNonapproval : decision ≠ .approved → reason ≠ none := by decide

/-- The record of a decision. -/
structure SecretaryIntegrationApprovalRecord where
  approvalRecordId : UUID
  approvalRequestId : UUID
  decisionId : UUID
  integrationId : UUID
  coordinationId : UUID
  organizationId : UUID
  classification : DataClassification
  decision : ApprovalDecision
  approverActorId : String
  requestedByActorId : String
  requestedAt : DateTime
  decidedAt : DateTime
  reason : Option String
  sourceIntegrationStatus : SecretaryIntegrationStatus
  sourceIntegratedAt : DateTime
  sourceWorkProductIds : List UUID
  acknowledgedConflictIds : List String
  acknowledgedGapIds : List String
  acknowledgedReviewTaskIds : List String
  approvalPolicyId : String
  deriving DecidableEq

variable (request : SecretaryIntegrationApprovalRequest)
  (context : SecretaryIntegrationApprovalContext) (decision : HumanApprovalDecisionInput)
  (integration : SecretaryIntegrationResult)

/-- Everything is about one request for one integration. -/
def validateApprovalIdentity : Except ApprovalError Unit := do
  rejectIf (request.approvalRequestId ≠ context.approvalRequestId ∨
      decision.approvalRequestId ≠ context.approvalRequestId ∨
      request.integrationId ≠ context.integrationId ∨
      decision.integrationId ≠ context.integrationId ∨
      integration.integrationId ≠ context.integrationId ∨
      request.coordinationId ≠ context.coordinationId ∨
      integration.coordinationId ≠ context.coordinationId)
    ⟨.identityMismatch, "Approval identity mismatch"⟩
  rejectIf (request.requestedByActorId ≠ context.expectedRequesterActorId)
    ⟨.identityMismatch, "Approval requester identity mismatch"⟩

/-- Everything is of one tenant and classification, and the request is of the integration. -/
def validateApprovalScope : Except ApprovalError Unit := do
  rejectIf (request.organizationId ≠ context.organizationId ∨
      integration.organizationId ≠ context.organizationId ∨
      context.authorization.organizationId ≠ context.organizationId)
    ⟨.tenantMismatch, "Approval tenant mismatch"⟩
  rejectIf (request.classification ≠ context.classification ∨
      integration.classification ≠ context.classification ∨
      context.authorization.classification ≠ context.classification)
    ⟨.classificationMismatch, "Approval classification mismatch"⟩
  rejectIf (request.sourceIntegrationStatus ≠ integration.status ∨
      request.sourceIntegratedAt ≠ integration.integratedAt ∨
      request.sourceWorkProductIds ≠ integration.sourceWorkProductIds)
    ⟨.identityMismatch, "Approval source integration lineage mismatch"⟩

/-- The approver is an authorized human who takes no other part. -/
def validateAuthorization : Except ApprovalError Unit := do
  let evidence := context.authorization
  rejectIf (decision.approverActorId ≠ context.authorizedApproverActorId ∨
      evidence.actorId ≠ context.authorizedApproverActorId)
    ⟨.actor, "Approval actor identity mismatch"⟩
  rejectIf (evidence.actorKind ≠ .human) ⟨.actor, "Only a human actor may decide approval"⟩
  rejectIf (request.requiredPermission ∉ evidence.permissionKeys)
    ⟨.authorization, "Approval permission is missing"⟩
  rejectIf (decision.approverActorId ∈ [context.secretaryActorId, request.requestedByActorId])
    ⟨.separationOfDuties, "Approval actor violates separation of duties"⟩
  rejectIf (decision.approverActorId ∈ context.specialistActorIds)
    ⟨.separationOfDuties, "Specialist producer cannot approve integration"⟩

/-- The decision is allowed and made in time, and what it approves is ready. -/
def validateApprovalDecision : Except ApprovalError Unit := do
  rejectIf (decision.decision ∉ context.allowedDecisions)
    ⟨.decision, "Approval decision is not allowed"⟩
  rejectIf (decision.decidedAt ≠ context.decidedAt)
    ⟨.timestamp, "Approval decision timestamp mismatch"⟩
  rejectIf (context.decidedAt < request.requestedAt)
    ⟨.timestamp, "Approval decision precedes request"⟩
  rejectIf (request.requestedAt < integration.integratedAt)
    ⟨.timestamp, "Approval request precedes integration"⟩
  rejectIf (decision.decision = .approved ∧ (integration.status ≠ .ready ∨
      integration.conflicts.any (·.blocking) ∨ integration.gaps.any (·.blocking) ∨
      integration.humanReviewTaskIds ≠ []))
    ⟨.eligibility, "Secretary integration is not eligible for approval"⟩

/-- A decision takes note of what the integration tells only. -/
def validateAcknowledgements : Except ApprovalError Unit :=
  rejectIf (¬ decision.acknowledgedConflictIds ⊆ integration.conflicts.map (·.conflictId) ∨
      ¬ decision.acknowledgedGapIds ⊆ integration.gaps.map (·.gapId) ∨
      ¬ decision.acknowledgedReviewTaskIds ⊆ integration.humanReviewTaskIds)
    ⟨.acknowledgement, "Approval acknowledgement is outside integration scope"⟩

/-- A decision is not one that was recorded, nor on a request that was decided. -/
def validatePriorRecords (priorRecords : List SecretaryIntegrationApprovalRecord) :
    Except ApprovalError Unit :=
  checkEach (fun record => do
    rejectIf (record.approvalRecordId = decision.approvalRecordId ∨
        record.decisionId = decision.decisionId)
      ⟨.duplicate, "Approval decision identity was already used"⟩
    rejectIf (record.approvalRequestId = request.approvalRequestId)
      ⟨.duplicate, "Approval request already has a decision"⟩) priorRecords

/-- Record one authorized decision of a human. -/
def decideSecretaryIntegrationApproval
    (priorRecords : List SecretaryIntegrationApprovalRecord) :
    Except ApprovalError SecretaryIntegrationApprovalRecord := do
  validateApprovalIdentity request context decision integration
  validateApprovalScope request context integration
  validateAuthorization request context decision
  validateApprovalDecision request context decision integration
  validateAcknowledgements decision integration
  validatePriorRecords request decision priorRecords
  pure
    { approvalRecordId := decision.approvalRecordId
      approvalRequestId := request.approvalRequestId
      decisionId := decision.decisionId
      integrationId := integration.integrationId
      coordinationId := integration.coordinationId
      organizationId := context.organizationId
      classification := context.classification
      decision := decision.decision
      approverActorId := decision.approverActorId
      requestedByActorId := request.requestedByActorId
      requestedAt := request.requestedAt
      decidedAt := decision.decidedAt
      reason := decision.reason
      sourceIntegrationStatus := integration.status
      sourceIntegratedAt := integration.integratedAt
      sourceWorkProductIds := integration.sourceWorkProductIds
      acknowledgedConflictIds := decision.acknowledgedConflictIds
      acknowledgedGapIds := decision.acknowledgedGapIds
      acknowledgedReviewTaskIds := decision.acknowledgedReviewTaskIds
      approvalPolicyId := context.approvalPolicyId }

end PolicyOS.Orchestration
