import PolicyOS.Runtime.Ports.Domain

/-!
# Runtime authority

The bundle a governed call is admitted under: the admission decision, the
permits it rests on, and the revisions they were granted at. Only the facts that
delivery, the execution state and the audit trail compare with their own are kept.
-/

namespace PolicyOS.Runtime

/-- What an admission decision says. -/
inductive RuntimeAuthorityDecisionStatus
  | admitted | denied | notApplicable | invalidated
  deriving DecidableEq, Repr

/-- Where a permit is in its own life. -/
inductive RuntimePermitStatus
  | active | revoked | expired | invalidated
  deriving DecidableEq, Repr

/-- One permit for one actor, action and destination, inside its validity. -/
@[ext] structure RuntimePermitReference where
  runtimePermitReferenceId : UUID
  runtimeExecutionRequestId : UUID
  permitStatus : RuntimePermitStatus
  tenantId : UUID
  organizationId : UUID
  actorId : UUID
  resourceReference : BoundedId
  action : BoundedId
  purpose : BoundedId
  riskLevel : RuntimeRiskLevel
  classificationCeiling : DataClassification
  executionEnvironment : RuntimeExecutionEnvironment
  destinationReference : Option BoundedId := none
  validFrom : DateTime
  expiresAt : DateTime
  remainingInvocations : NonNegativeInt
  remainingAttempts : NonNegativeInt
  validity : validFrom < expiresAt := by decide

instance : DecidableEq RuntimePermitReference := fun _ _ =>
  decidable_of_iff' _ RuntimePermitReference.ext_iff

theorem orderedGroups_none : canonical [] ∧ canonical [] ∧ canonical [] := by decide

/-- The decision that admits a request, with the permits it names. -/
@[ext] structure RuntimeAdmissionDecision where
  runtimeAdmissionDecisionId : UUID
  decisionStatus : RuntimeAuthorityDecisionStatus
  reviewReferenceIds : List UUID := []
  approvalReferenceIds : List UUID := []
  authorizationReferenceIds : List UUID := []
  permitReferenceIds : List UUID := []
  orderedGroups : canonical reviewReferenceIds ∧ canonical approvalReferenceIds ∧
    canonical authorizationReferenceIds := by first | exact orderedGroups_none | decide
  orderedPermits : canonical permitReferenceIds := by decide
  admittedPermits : decisionStatus = .admitted → permitReferenceIds ≠ [] := by decide

instance : DecidableEq RuntimeAdmissionDecision := fun _ _ =>
  decidable_of_iff' _ RuntimeAdmissionDecision.ext_iff

/-- The request the authority was granted for. -/
structure RuntimeExecutionRequest where
  runtimeExecutionRequestId : UUID
  requesterActorId : UUID
  requesterAgentInstanceId : Option UUID := none
  onBehalfOfUserId : Option UUID := none
  tenantId : UUID
  organizationId : UUID
  classification : DataClassification
  policyRevision : PositiveInt
  authorizationRevision : Option PositiveInt := none
  registryRevision : Option PositiveInt := none
  lineageId : UUID
  lineageDigestReference : BoundedId
  deriving DecidableEq

/-- Everything one governed call is admitted under. -/
structure RuntimeAuthorityBundle where
  runtimeAuthorityBundleId : UUID
  executionRequest : RuntimeExecutionRequest
  permitReferences : List RuntimePermitReference := []
  admissionDecision : RuntimeAdmissionDecision
  tenantId : UUID
  organizationId : UUID
  classification : DataClassification
  policyRevision : PositiveInt
  authorizationRevision : Option PositiveInt := none
  registryRevision : Option PositiveInt := none
  rootLineageId : UUID
  rootLineageDigestReference : BoundedId
  deriving DecidableEq

end PolicyOS.Runtime

/-!
# Runtime authority contracts

The request for one governed call, the context it is judged in, and the reviews, approvals,
authorizations, permits and revocations that are supplied for it, with the decision they
admit it by. Nothing is granted here: every reference repeats what was decided elsewhere.
The bundle as delivery and the audit trail read it keeps only what they compare.
-/

namespace PolicyOS.Runtime.Authority

/-! ## Vocabulary -/

/-- Why a request was not admitted, in the order of the values. -/
inductive RuntimeDenialReasonCode
  | actionMismatch | actorMismatch | agentMismatch | approvalRequired | attemptLimitExceeded
  | authorizationRequired | callerSupplied | classificationMismatch | destinationMismatch
  | executionEnvironmentMismatch | invocationLimitExceeded | organizationMismatch
  | permitExpired | permitRequired | permitRevoked | permitScopeMismatch
  | policyRevisionMismatch | purposeMismatch | registryRevisionMismatch
  | requestScopeMismatch | resourceMismatch | reviewRequired | riskLevelMismatch
  | tenantMismatch
  deriving DecidableEq, Repr

/-- Position in the order of the values. -/
def RuntimeDenialReasonCode.position (code : RuntimeDenialReasonCode) : Nat := code.ctorIdx

/-- Where a review is in its own life. -/
inductive RuntimeReviewStatus
  | required | requested | completed | waived | cancelled
  deriving DecidableEq, Repr

/-- Where an approval or an authorization is in its own life. -/
inductive RuntimeApprovalStatus
  | required | requested | granted | denied | revoked | expired
  deriving DecidableEq, Repr

/-- The statuses of authorizations are those of approvals. -/
abbrev RuntimeAuthorizationStatus := RuntimeApprovalStatus

/-- What a revocation is of. -/
inductive RuntimeAuthorityReferenceType
  | approval | authorization | permit
  deriving DecidableEq, Repr

/-! ## The request and its context -/

/-- What a request is about. -/
structure RuntimeExecutionSubject where
  runtimeExecutionSubjectId : UUID
  tenantId : UUID
  organizationId : UUID
  classification : DataClassification
  createdAt : DateTime
  deriving DecidableEq

/-- What a call is to be done with. -/
structure RuntimeExecutionSelectors where
  resourceReference : BoundedId
  action : BoundedId
  purpose : BoundedId
  riskLevel : RuntimeRiskLevel
  executionEnvironment : RuntimeExecutionEnvironment
  modelId : Option BoundedId := none
  providerId : Option BoundedId := none
  toolId : Option BoundedId := none
  connectorId : Option BoundedId := none
  destinationReference : Option BoundedId := none
  deriving DecidableEq

/-- The revisions and the lineage a reference is of. -/
structure RuntimeAuthorityRevisions where
  policyRevision : PositiveInt
  authorizationRevision : Option PositiveInt := none
  registryRevision : Option PositiveInt := none
  lineageId : UUID
  lineageDigestReference : BoundedId
  deriving DecidableEq

/-- A request for one governed call. -/
structure RuntimeExecutionRequest where
  runtimeExecutionRequestId : UUID
  executionSubject : RuntimeExecutionSubject
  requesterActorId : UUID
  requesterAgentInstanceId : Option UUID := none
  onBehalfOfUserId : Option UUID := none
  tenantId : UUID
  organizationId : UUID
  selectors : RuntimeExecutionSelectors
  classification : DataClassification
  requestedInvocationCount : PositiveInt
  requestedAttemptCount : PositiveInt
  revisions : RuntimeAuthorityRevisions
  requestedAt : DateTime
  deriving DecidableEq

/-- The context a request is judged in. -/
structure RuntimeAuthorityContext where
  runtimeAuthorityContextId : UUID
  runtimeExecutionRequestId : UUID
  tenantId : UUID
  organizationId : UUID
  actorId : UUID
  agentInstanceId : Option UUID := none
  onBehalfOfUserId : Option UUID := none
  selectors : RuntimeExecutionSelectors
  classification : DataClassification
  revisions : RuntimeAuthorityRevisions
  createdAt : DateTime
  deriving DecidableEq

/-! ## Reviews, approvals and authorizations -/

/-- A review of the request. -/
structure RuntimeReviewReference where
  runtimeReviewReferenceId : UUID
  runtimeExecutionRequestId : UUID
  reviewStatus : RuntimeReviewStatus
  externalReviewRequestReference : Option BoundedId := none
  externalReviewResultReference : Option BoundedId := none
  waiverReference : Option BoundedId := none
  tenantId : UUID
  organizationId : UUID
  classification : DataClassification
  policyRevision : PositiveInt
  createdAt : DateTime
  lifecycle : match reviewStatus with
    | .required => externalReviewRequestReference = none ∧ externalReviewResultReference = none ∧
        waiverReference = none
    | .requested | .cancelled => externalReviewRequestReference ≠ none ∧
        externalReviewResultReference = none ∧ waiverReference = none
    | .completed => externalReviewResultReference ≠ none ∧ waiverReference = none
    | .waived => waiverReference ≠ none ∧ externalReviewResultReference = none := by decide
  deriving DecidableEq

/-- What an approval or an authorization of a status carries, and when it is valid. -/
def approvalLifecycle (status : RuntimeApprovalStatus) (decision : Option BoundedId)
    (validFrom expiresAt : Option DateTime) (revocation : Option BoundedId)
    (createdAt : DateTime) : Prop :=
  (status = .granted ∨ status = .denied → decision ≠ none) ∧
  (status = .revoked → revocation ≠ none) ∧
  (status = .expired → expiresAt ≠ none) ∧
  (∀ start ∈ validFrom, createdAt ≤ start) ∧
  ∀ expiry ∈ expiresAt, createdAt ≤ expiry ∧ ∀ start ∈ validFrom, start < expiry

instance {status decision validFrom expiresAt revocation createdAt} :
    Decidable (approvalLifecycle status decision validFrom expiresAt revocation createdAt) :=
  inferInstanceAs (Decidable (_ ∧ _ ∧ _ ∧ _ ∧ _))

/-- An approval of the request. -/
structure RuntimeApprovalReference where
  runtimeApprovalReferenceId : UUID
  runtimeExecutionRequestId : UUID
  approvalStatus : RuntimeApprovalStatus
  externalApprovalDecisionReference : Option BoundedId := none
  validFrom : Option DateTime := none
  expiresAt : Option DateTime := none
  revocationReference : Option BoundedId := none
  tenantId : UUID
  organizationId : UUID
  classification : DataClassification
  policyRevision : PositiveInt
  createdAt : DateTime
  lifecycle : approvalLifecycle approvalStatus externalApprovalDecisionReference validFrom
    expiresAt revocationReference createdAt := by decide
  deriving DecidableEq

/-- An authorization of the request. -/
structure RuntimeAuthorizationReference where
  runtimeAuthorizationReferenceId : UUID
  runtimeExecutionRequestId : UUID
  authorizationStatus : RuntimeAuthorizationStatus
  externalAuthorizationDecisionReference : Option BoundedId := none
  validFrom : Option DateTime := none
  expiresAt : Option DateTime := none
  revocationReference : Option BoundedId := none
  tenantId : UUID
  organizationId : UUID
  classification : DataClassification
  policyRevision : PositiveInt
  authorizationRevision : PositiveInt
  createdAt : DateTime
  lifecycle : approvalLifecycle authorizationStatus externalAuthorizationDecisionReference
    validFrom expiresAt revocationReference createdAt := by decide
  deriving DecidableEq

/-! ## Permits and revocations -/

/-- A permit for the call, inside its validity and its limits. -/
structure RuntimePermitReference where
  runtimePermitReferenceId : UUID
  runtimeExecutionRequestId : UUID
  permitStatus : RuntimePermitStatus
  tenantId : UUID
  organizationId : UUID
  actorId : UUID
  agentInstanceId : Option UUID := none
  selectors : RuntimeExecutionSelectors
  classificationCeiling : DataClassification
  validFrom : DateTime
  expiresAt : DateTime
  maximumInvocations : PositiveInt
  remainingInvocations : NonNegativeInt
  maximumAttempts : PositiveInt
  remainingAttempts : NonNegativeInt
  revisions : RuntimeAuthorityRevisions
  revocationReference : Option BoundedId := none
  createdAt : DateTime
  validity : createdAt ≤ validFrom ∧ validFrom < expiresAt := by decide
  remaining : remainingInvocations.val ≤ maximumInvocations.val ∧
    remainingAttempts.val ≤ maximumAttempts.val := by decide
  lifecycle : (permitStatus = .active → revocationReference = none) ∧
    (permitStatus = .revoked → revocationReference ≠ none) := by decide
  deriving DecidableEq

/-- The revocation of an approval, an authorization or a permit. -/
structure RuntimeAuthorityRevocationReference where
  runtimeAuthorityRevocationReferenceId : UUID
  authorityReferenceType : RuntimeAuthorityReferenceType
  authorityReferenceId : UUID
  tenantId : UUID
  organizationId : UUID
  classification : DataClassification
  policyRevision : PositiveInt
  revokedAt : DateTime
  deriving DecidableEq

/-! ## Admission -/

/-- Reasons listed once each, in order. -/
def canonicalReasons (codes : List RuntimeDenialReasonCode) : Prop :=
  (codes.map (·.position)).Pairwise (· < ·)

instance (codes : List RuntimeDenialReasonCode) : Decidable (canonicalReasons codes) :=
  inferInstanceAs (Decidable (List.Pairwise _ _))

/-- The decision on a request, with the references it names. -/
@[ext] structure RuntimeAdmissionDecision where
  runtimeAdmissionDecisionId : UUID
  runtimeExecutionRequestId : UUID
  runtimeAuthorityContextId : UUID
  decisionStatus : RuntimeAuthorityDecisionStatus
  reviewReferenceIds : List UUID := []
  approvalReferenceIds : List UUID := []
  authorizationReferenceIds : List UUID := []
  permitReferenceIds : List UUID := []
  denialReasonCodes : List RuntimeDenialReasonCode := []
  actorId : UUID
  agentInstanceId : Option UUID := none
  tenantId : UUID
  organizationId : UUID
  classification : DataClassification
  policyRevision : PositiveInt
  authorizationRevision : Option PositiveInt := none
  registryRevision : Option PositiveInt := none
  rootLineageId : UUID
  rootLineageDigestReference : BoundedId
  originalAdmissionDecisionId : Option UUID := none
  invalidationReference : Option BoundedId := none
  decidedAt : DateTime
  orderedGroups : canonical reviewReferenceIds ∧ canonical approvalReferenceIds ∧
    canonical authorizationReferenceIds ∧ canonical permitReferenceIds := by decide
  orderedReasons : canonicalReasons denialReasonCodes := by decide
  lifecycle : match decisionStatus with
    | .admitted => permitReferenceIds ≠ [] ∧ denialReasonCodes = []
    | .denied => denialReasonCodes ≠ []
    | .notApplicable => permitReferenceIds = [] ∧ denialReasonCodes = []
    | .invalidated => originalAdmissionDecisionId ≠ none ∧ invalidationReference ≠ none ∧
        originalAdmissionDecisionId ≠ some runtimeAdmissionDecisionId := by decide

instance : DecidableEq RuntimeAdmissionDecision := fun _ _ =>
  decidable_of_iff' _ RuntimeAdmissionDecision.ext_iff

/-- The counts of a bundle, supplied with it. -/
structure RuntimeAuthorityAuditMetadata where
  runtimeAuthorityBundleId : UUID
  reviewReferenceCount : NonNegativeInt
  approvalReferenceCount : NonNegativeInt
  authorizationReferenceCount : NonNegativeInt
  permitReferenceCount : NonNegativeInt
  activePermitCount : NonNegativeInt
  revokedPermitCount : NonNegativeInt
  expiredPermitCount : NonNegativeInt
  denialReasonCount : NonNegativeInt
  revocationReferenceCount : NonNegativeInt
  tenantId : UUID
  organizationId : UUID
  classification : DataClassification
  policyRevision : PositiveInt
  registryRevision : Option PositiveInt := none
  createdAt : DateTime
  deriving DecidableEq

/-- Everything one governed call is admitted under. -/
structure RuntimeAuthorityBundle where
  runtimeAuthorityBundleId : UUID
  executionRequest : RuntimeExecutionRequest
  authorityContext : RuntimeAuthorityContext
  reviewReferences : List RuntimeReviewReference := []
  approvalReferences : List RuntimeApprovalReference := []
  authorizationReferences : List RuntimeAuthorizationReference := []
  permitReferences : List RuntimePermitReference := []
  revocationReferences : List RuntimeAuthorityRevocationReference := []
  admissionDecision : RuntimeAdmissionDecision
  tenantId : UUID
  organizationId : UUID
  classification : DataClassification
  revisions : RuntimeAuthorityRevisions
  auditMetadata : Option RuntimeAuthorityAuditMetadata := none
  createdAt : DateTime
  deriving DecidableEq

end PolicyOS.Runtime.Authority
