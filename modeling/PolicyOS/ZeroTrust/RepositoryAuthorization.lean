import PolicyOS.ZeroTrust.Lineage

/-!
# Repository authorization

Access requests, the decisions and permits issued for them, and the digests that
bind a permit to request facts and decision facts. Requests, facts and permits
repeat one block of scope fields, which is one structure here. Hashing is a
parameter: it digests the normalized metadata in the order of its fields.
-/

namespace PolicyOS.ZeroTrust

open Foundation

/-- Outcome of a repository policy evaluation. -/
inductive RepositoryAuthorizationOutcome
  | allow | deny | requiresHumanApproval
  deriving DecidableEq, Repr

/-- The serialized outcome. -/
def RepositoryAuthorizationOutcome.value : RepositoryAuthorizationOutcome → String
  | .allow => "allow"
  | .deny => "deny"
  | .requiresHumanApproval => "requires_human_approval"

/-- Reason codes of a decision. -/
inductive RepositoryAuthorizationReason
  | allowedByPolicy | userInactive | membershipMissing | membershipInactive | tenantMismatch
  | organizationMismatch | userMismatch | resourceDenied | actionDenied | purposeDenied
  | riskDenied | classificationDenied | delegationInvalid | serviceActorMismatch
  | agentInstanceMismatch | policyRevisionMismatch | humanApprovalRequired
  deriving DecidableEq, Repr

/-- The serialized reason. -/
def RepositoryAuthorizationReason.value : RepositoryAuthorizationReason → String
  | .allowedByPolicy => "allowed_by_policy"
  | .userInactive => "user_inactive"
  | .membershipMissing => "membership_missing"
  | .membershipInactive => "membership_inactive"
  | .tenantMismatch => "tenant_mismatch"
  | .organizationMismatch => "organization_mismatch"
  | .userMismatch => "user_mismatch"
  | .resourceDenied => "resource_denied"
  | .actionDenied => "action_denied"
  | .purposeDenied => "purpose_denied"
  | .riskDenied => "risk_denied"
  | .classificationDenied => "classification_denied"
  | .delegationInvalid => "delegation_invalid"
  | .serviceActorMismatch => "service_actor_mismatch"
  | .agentInstanceMismatch => "agent_instance_mismatch"
  | .policyRevisionMismatch => "policy_revision_mismatch"
  | .humanApprovalRequired => "human_approval_required"

/-- The identity, actor, resource, action, purpose, risk and classification one
repository access is for. -/
structure RepositoryAccessScope where
  repositoryRequestId : UUID
  delegationId : UUID
  tenantId : UUID
  organizationId : UUID
  onBehalfOfUserId : UUID
  serviceActorId : UUID
  agentInstanceId : UUID
  taskId : UUID
  repositoryId : String
  resourceId : String
  resourceType : String
  action : String
  purpose : String
  riskLevel : String
  classification : DataClassification
  deriving DecidableEq

/-- One request to access a repository. -/
structure RepositoryAccessRequest extends RepositoryAccessScope where
  requestedAt : DateTime
  deriving DecidableEq

/-- The decision on one request. -/
structure RepositoryAuthorizationDecision where
  repositoryAuthorizationDecisionId : UUID
  repositoryRequestId : UUID
  delegationId : UUID
  outcome : RepositoryAuthorizationOutcome
  reasonCodes : List RepositoryAuthorizationReason
  repositoryPolicyRevision : String
  decidedAt : DateTime
  deriving DecidableEq

/-- A permit for exactly one request. -/
structure AuthorizedRepositoryAccessPermit extends RepositoryAccessScope where
  repositoryPermitId : UUID
  repositoryAuthorizationDecisionId : UUID
  repositoryPolicyRevision : String
  issuedAt : DateTime
  expiresAt : Option DateTime := none
  deriving DecidableEq

/-- The exception classes of repository authorization. -/
inductive RepositoryErrorKind
  | permit | requestDigest | decisionDigest | replay | versionMismatch
  deriving DecidableEq, Repr

/-- A typed failure with its message. -/
structure RepositoryError where
  kind : RepositoryErrorKind
  message : String
  deriving DecidableEq, Repr

/-- A permit does not cover an instant. -/
def AuthorizedRepositoryAccessPermit.outsideLifetime (permit : AuthorizedRepositoryAccessPermit)
    (evaluatedAt : DateTime) : Prop :=
  evaluatedAt < permit.issuedAt ∨ ∃ expiry ∈ permit.expiresAt, evaluatedAt ≥ expiry

instance (permit : AuthorizedRepositoryAccessPermit) (evaluatedAt : DateTime) :
    Decidable (permit.outsideLifetime evaluatedAt) :=
  inferInstanceAs (Decidable (_ ∨ ∃ _ ∈ _, _))

/-- Issue a permit for the request an `ALLOW` decision is about. -/
def issueRepositoryAccessPermit (request : RepositoryAccessRequest)
    (decision : RepositoryAuthorizationDecision) (repositoryPermitId : UUID)
    (issuedAt : DateTime) (expiresAt : Option DateTime) :
    Except RepositoryError AuthorizedRepositoryAccessPermit := do
  rejectIf (decision.outcome ≠ .allow ∨
      decision.repositoryRequestId ≠ request.repositoryRequestId ∨
      decision.delegationId ≠ request.delegationId)
    ⟨.permit, "repository authorization did not allow exact request"⟩
  rejectIf (∃ expiry ∈ expiresAt, expiry ≤ issuedAt)
    ⟨.permit, "repository permit expiry must follow issuance"⟩
  pure
    { toRepositoryAccessScope := request.toRepositoryAccessScope
      repositoryPermitId := repositoryPermitId
      repositoryAuthorizationDecisionId := decision.repositoryAuthorizationDecisionId
      repositoryPolicyRevision := decision.repositoryPolicyRevision
      issuedAt := issuedAt
      expiresAt := expiresAt }

/-- A permit must repeat the request it is used for, in every scope field. -/
def validateRepositoryAccessPermit (permit : AuthorizedRepositoryAccessPermit)
    (request : RepositoryAccessRequest) (repositoryPolicyRevision : String)
    (evaluatedAt : DateTime) : Except RepositoryError Unit := do
  rejectIf (permit.toRepositoryAccessScope ≠ request.toRepositoryAccessScope)
    ⟨.permit, "repository permit lineage mismatch"⟩
  rejectIf (permit.repositoryPolicyRevision ≠ repositoryPolicyRevision)
    ⟨.permit, "repository policy revision mismatch"⟩
  rejectIf (permit.outsideLifetime evaluatedAt)
    ⟨.permit, "repository permit is outside its lifetime"⟩

/-- Run an operation on the request its permit was issued for. -/
def executeAuthorizedRepositoryOperation {Result : Type} (request : RepositoryAccessRequest)
    (permit : AuthorizedRepositoryAccessPermit) (operation : RepositoryAccessRequest → Result)
    (repositoryPolicyRevision : String) (evaluatedAt : DateTime) :
    Except RepositoryError Result := do
  validateRepositoryAccessPermit permit request repositoryPolicyRevision evaluatedAt
  pure (operation request)

/-! ## Digests -/

/-- The request facts a digest is taken of. -/
structure RepositoryRequestFacts extends RepositoryAccessScope where
  lineageId : UUID
  lineageDigest : String
  requestedAt : DateTime
  deriving DecidableEq

/-- The request facts, field by field. -/
def canonicalizeRepositoryRequest (facts : RepositoryRequestFacts) : CanonicalMetadata :=
  [("repository_request_id", .uuid facts.repositoryRequestId),
    ("delegation_id", .uuid facts.delegationId),
    ("lineage_id", .uuid facts.lineageId),
    ("lineage_digest", .text facts.lineageDigest),
    ("tenant_id", .uuid facts.tenantId),
    ("organization_id", .uuid facts.organizationId),
    ("on_behalf_of_user_id", .uuid facts.onBehalfOfUserId),
    ("service_actor_id", .uuid facts.serviceActorId),
    ("agent_instance_id", .uuid facts.agentInstanceId),
    ("task_id", .uuid facts.taskId),
    ("repository_id", .text facts.repositoryId),
    ("resource_id", .text facts.resourceId),
    ("resource_type", .text facts.resourceType),
    ("action", .text facts.action),
    ("purpose", .text facts.purpose),
    ("risk_level", .text facts.riskLevel),
    ("classification", .text (classificationValue facts.classification)),
    ("requested_at", .instant facts.requestedAt)]

/-- A digest of request facts. -/
structure RepositoryRequestDigest where
  digestAlgorithm : String := "sha256"
  digestVersion : String := "repository_request_digest_v1"
  digestValue : String
  deriving DecidableEq

/-- The decision facts a digest is taken of. -/
structure RepositoryAuthorizationDecisionFacts where
  repositoryAuthorizationDecisionId : UUID
  repositoryRequestDigest : String
  outcome : RepositoryAuthorizationOutcome
  reasonCodes : List RepositoryAuthorizationReason
  policyRevision : String
  authorizationEngineId : String
  authorizationEngineVersion : String
  authorizationRuleSetId : String
  authorizationRuleSetVersion : String
  decidedAt : DateTime
  deriving DecidableEq

/-- The decision facts, field by field. -/
def canonicalizeRepositoryAuthorizationDecision (facts : RepositoryAuthorizationDecisionFacts) :
    CanonicalMetadata :=
  [("repository_authorization_decision_id", .uuid facts.repositoryAuthorizationDecisionId),
    ("repository_request_digest", .text facts.repositoryRequestDigest),
    ("outcome", .text facts.outcome.value),
    ("reason_codes", .list (facts.reasonCodes.map (·.value))),
    ("policy_revision", .text facts.policyRevision),
    ("authorization_engine_id", .text facts.authorizationEngineId),
    ("authorization_engine_version", .text facts.authorizationEngineVersion),
    ("authorization_rule_set_id", .text facts.authorizationRuleSetId),
    ("authorization_rule_set_version", .text facts.authorizationRuleSetVersion),
    ("decided_at", .instant facts.decidedAt)]

/-- A digest of decision facts. -/
structure RepositoryAuthorizationDecisionDigest where
  digestAlgorithm : String := "sha256"
  digestVersion : String := "repository_decision_digest_v1"
  digestValue : String
  deriving DecidableEq

/-- Life of a replay-protected permit. -/
inductive RepositoryPermitStatus
  | issued | revoked | expired | consumed
  deriving DecidableEq, Repr

/-- A permit bound to the digests of its request facts and decision facts. -/
structure ReplayProtectedRepositoryAccessPermit extends AuthorizedRepositoryAccessPermit where
  repositoryRequestDigest : String
  delegationLineageId : UUID
  delegationLineageDigest : String
  authorizationEngineId : String
  authorizationEngineVersion : String
  authorizationRuleSetId : String
  authorizationRuleSetVersion : String
  policyRevision : String
  decisionFactsDigest : String
  permitRevision : Nat
  permitStatus : RepositoryPermitStatus
  deriving DecidableEq

/-- What the caller of a replay-protected operation supplies for validation. -/
structure RepositoryValidationFacts where
  lineageId : UUID
  lineageDigest : String
  authorizationEngineId : String
  authorizationEngineVersion : String
  authorizationRuleSetId : String
  authorizationRuleSetVersion : String
  policyRevision : String
  decisionFactsDigest : String
  evaluatedAt : DateTime
  deriving DecidableEq

section Hashing

variable (sha256 : CanonicalMetadata → String)

/-- The digest of request facts. -/
def computeRepositoryRequestDigest (facts : RepositoryRequestFacts) : RepositoryRequestDigest :=
  { digestValue := sha256 (canonicalizeRepositoryRequest facts) }

/-- A digest must be that of the facts. -/
def verifyRepositoryRequestDigest (facts : RepositoryRequestFacts)
    (digest : RepositoryRequestDigest) : Except RepositoryError Unit :=
  rejectIf ((computeRepositoryRequestDigest sha256 facts).digestValue ≠ digest.digestValue)
    ⟨.requestDigest, "repository request digest mismatch"⟩

/-- The digest of decision facts. -/
def computeRepositoryAuthorizationDecisionDigest (facts : RepositoryAuthorizationDecisionFacts) :
    RepositoryAuthorizationDecisionDigest :=
  { digestValue := sha256 (canonicalizeRepositoryAuthorizationDecision facts) }

/-- A digest must be that of the decision facts. -/
def verifyRepositoryAuthorizationDecisionDigest (facts : RepositoryAuthorizationDecisionFacts)
    (digest : RepositoryAuthorizationDecisionDigest) : Except RepositoryError Unit :=
  rejectIf ((computeRepositoryAuthorizationDecisionDigest sha256 facts).digestValue ≠
      digest.digestValue)
    ⟨.decisionDigest, "repository decision digest mismatch"⟩

/-- Issue a permit bound to the digests of request facts and decision facts. The
facts are compared with the request by identifier, and with the decision only
through the request digest. -/
def issueReplayProtectedRepositoryPermit (request : RepositoryAccessRequest)
    (decision : RepositoryAuthorizationDecision) (requestFacts : RepositoryRequestFacts)
    (requestDigest : RepositoryRequestDigest)
    (decisionFacts : RepositoryAuthorizationDecisionFacts)
    (decisionDigest : RepositoryAuthorizationDecisionDigest) (repositoryPermitId : UUID)
    (permitRevision : Nat) (issuedAt : DateTime) (expiresAt : Option DateTime) :
    Except RepositoryError ReplayProtectedRepositoryAccessPermit := do
  verifyRepositoryRequestDigest sha256 requestFacts requestDigest
  verifyRepositoryAuthorizationDecisionDigest sha256 decisionFacts decisionDigest
  rejectIf (requestFacts.repositoryRequestId ≠ request.repositoryRequestId)
    ⟨.replay, "repository request facts identity mismatch"⟩
  rejectIf (decisionFacts.repositoryRequestDigest ≠ requestDigest.digestValue)
    ⟨.decisionDigest, "decision does not bind repository request"⟩
  let base ← issueRepositoryAccessPermit request decision repositoryPermitId issuedAt expiresAt
  pure
    { toAuthorizedRepositoryAccessPermit := base
      repositoryRequestDigest := requestDigest.digestValue
      delegationLineageId := requestFacts.lineageId
      delegationLineageDigest := requestFacts.lineageDigest
      authorizationEngineId := decisionFacts.authorizationEngineId
      authorizationEngineVersion := decisionFacts.authorizationEngineVersion
      authorizationRuleSetId := decisionFacts.authorizationRuleSetId
      authorizationRuleSetVersion := decisionFacts.authorizationRuleSetVersion
      policyRevision := decisionFacts.policyRevision
      decisionFactsDigest := decisionDigest.digestValue
      permitRevision := permitRevision
      permitStatus := .issued }

/-- Two scopes agree on the fields a replay-protected permit is compared on. -/
def RepositoryAccessScope.agreesOnPermitFields (left right : RepositoryAccessScope) : Prop :=
  left.repositoryRequestId = right.repositoryRequestId ∧
  left.tenantId = right.tenantId ∧
  left.organizationId = right.organizationId ∧
  left.onBehalfOfUserId = right.onBehalfOfUserId ∧
  left.agentInstanceId = right.agentInstanceId ∧
  left.taskId = right.taskId ∧
  left.repositoryId = right.repositoryId ∧
  left.resourceId = right.resourceId ∧
  left.action = right.action ∧
  left.purpose = right.purpose

instance (left right : RepositoryAccessScope) : Decidable (left.agreesOnPermitFields right) :=
  inferInstanceAs (Decidable (_ ∧ _ ∧ _ ∧ _ ∧ _ ∧ _ ∧ _ ∧ _ ∧ _ ∧ _))

/-- A permit must repeat the request facts, the lineage and the decision digest it
is used with. -/
def ReplayProtectedRepositoryAccessPermit.repeats
    (permit : ReplayProtectedRepositoryAccessPermit) (requestFacts : RepositoryRequestFacts)
    (requestDigest : RepositoryRequestDigest) (expected : RepositoryValidationFacts) : Prop :=
  permit.agreesOnPermitFields requestFacts.toRepositoryAccessScope ∧
  permit.repositoryRequestDigest = requestDigest.digestValue ∧
  permit.delegationLineageId = expected.lineageId ∧
  permit.delegationLineageDigest = expected.lineageDigest ∧
  permit.policyRevision = expected.policyRevision ∧
  permit.decisionFactsDigest = expected.decisionFactsDigest

instance (permit : ReplayProtectedRepositoryAccessPermit) (requestFacts : RepositoryRequestFacts)
    (requestDigest : RepositoryRequestDigest) (expected : RepositoryValidationFacts) :
    Decidable (permit.repeats requestFacts requestDigest expected) :=
  inferInstanceAs (Decidable (_ ∧ _ ∧ _ ∧ _ ∧ _ ∧ _))

/-- Validate a replay-protected permit against the facts it is used with. The
request that will be executed is not an argument. -/
def validateRepositoryPermitForRequest (permit : ReplayProtectedRepositoryAccessPermit)
    (requestFacts : RepositoryRequestFacts) (requestDigest : RepositoryRequestDigest)
    (expected : RepositoryValidationFacts) : Except RepositoryError Unit := do
  verifyRepositoryRequestDigest sha256 requestFacts requestDigest
  rejectIf (¬ permit.repeats requestFacts requestDigest expected)
    ⟨.replay, "repository permit substitution detected"⟩
  rejectIf (permit.authorizationEngineId ≠ expected.authorizationEngineId ∨
      permit.authorizationEngineVersion ≠ expected.authorizationEngineVersion ∨
      permit.authorizationRuleSetId ≠ expected.authorizationRuleSetId ∨
      permit.authorizationRuleSetVersion ≠ expected.authorizationRuleSetVersion)
    ⟨.versionMismatch, "authorization version metadata mismatch"⟩
  rejectIf (permit.permitStatus ≠ .issued)
    ⟨.replay, "repository permit status is not issued"⟩
  rejectIf (permit.outsideLifetime expected.evaluatedAt)
    ⟨.replay, "repository permit is outside its lifetime"⟩

/-- Validate a replay-protected permit, then run the operation on the request. -/
def executeReplayProtectedRepositoryOperation {Result : Type}
    (permit : ReplayProtectedRepositoryAccessPermit) (requestFacts : RepositoryRequestFacts)
    (requestDigest : RepositoryRequestDigest) (operation : RepositoryAccessRequest → Result)
    (request : RepositoryAccessRequest) (expected : RepositoryValidationFacts) :
    Except RepositoryError Result := do
  validateRepositoryPermitForRequest sha256 permit requestFacts requestDigest expected
  pure (operation request)

end Hashing

end PolicyOS.ZeroTrust
