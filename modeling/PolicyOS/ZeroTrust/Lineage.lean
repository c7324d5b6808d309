import PolicyOS.Domain.Primitives
import PolicyOS.Foundation.Checked

/-!
# Canonical metadata

The normalized values that lineage facts, repository requests and decisions are
digested as, field by field in a declared order.
-/

namespace PolicyOS.ZeroTrust

/-- The serialized classification. -/
def classificationValue : DataClassification → String
  | .public => "public"
  | .internal => "internal"
  | .confidential => "confidential"
  | .restricted => "restricted"

/-- A normalized metadata value: identifiers as text, instants in UTC, enumerations
by their values. -/
inductive MetadataValue
  | uuid (value : UUID)
  | text (value : String)
  | instant (value : DateTime)
  | list (values : List String)
  deriving DecidableEq

/-- Metadata fields in their declared order. -/
abbrev CanonicalMetadata := List (String × MetadataValue)

end PolicyOS.ZeroTrust

/-!
# Delegation lineage

The facts a delegation is recorded with at each boundary, their digest, and the
continuity one record must keep with the record before it. Protected facts and
targets are read through a table of fields, as the source reads them by name.
Hashing is a parameter: it digests the canonical facts in their declared order.
-/

namespace PolicyOS.ZeroTrust

open Foundation

/-- The boundaries a delegation is recorded at, in the order it may cross them. -/
inductive LineageStage
  | delegationCreated | modelBound | providerBound | mcpBound | connectorBound
  | crossValidationBound | secretaryHandoffBound | repositoryRequestBound
  | repositoryPermitBound | resultStorageBound
  deriving DecidableEq, Repr

/-- The position of a stage. -/
def LineageStage.order : LineageStage → Nat
  | .delegationCreated => 0
  | .modelBound => 1
  | .providerBound => 2
  | .mcpBound => 3
  | .connectorBound => 4
  | .crossValidationBound => 5
  | .secretaryHandoffBound => 6
  | .repositoryRequestBound => 7
  | .repositoryPermitBound => 8
  | .resultStorageBound => 9

/-- The number of stages. -/
def stageCount : Nat := 10

/-- What a delegation is for, and the targets it has been specialized to. -/
structure DelegationLineageFacts where
  delegationId : UUID
  tenantId : UUID
  organizationId : UUID
  onBehalfOfUserId : UUID
  serviceActorId : UUID
  agentInstanceId : UUID
  taskId : UUID
  resourceId : String
  resourceType : String
  action : String
  purpose : String
  riskLevel : String
  classification : DataClassification
  delegationScope : String
  authorizationDecisionId : UUID
  issuedAt : DateTime
  expiresAt : Option DateTime := none
  parentDelegationId : Option UUID := none
  crossValidationPlanId : Option UUID := none
  crossValidationRunId : Option UUID := none
  providerInstanceId : Option String := none
  modelId : Option String := none
  mcpServerId : Option String := none
  toolId : Option String := none
  connectorId : Option String := none
  deriving DecidableEq

/-- The fields no boundary may change. -/
inductive ProtectedField
  | tenantId | organizationId | onBehalfOfUserId | serviceActorId | agentInstanceId | taskId
  | resourceId | resourceType | action | purpose | riskLevel | classification | delegationScope
  | authorizationDecisionId
  deriving DecidableEq, Repr

/-- All of them, in the order of the source. -/
def protectedFields : List ProtectedField :=
  [.tenantId, .organizationId, .onBehalfOfUserId, .serviceActorId, .agentInstanceId, .taskId,
    .resourceId, .resourceType, .action, .purpose, .riskLevel, .classification,
    .delegationScope, .authorizationDecisionId]

/-- The fields a boundary may set once. -/
inductive TargetField
  | crossValidationPlanId | crossValidationRunId | providerInstanceId | modelId | mcpServerId
  | toolId | connectorId
  deriving DecidableEq, Repr

/-- All of them, in the order of the source. -/
def targetFields : List TargetField :=
  [.crossValidationPlanId, .crossValidationRunId, .providerInstanceId, .modelId, .mcpServerId,
    .toolId, .connectorId]

/-- Every protected field is listed. -/
@[simp] theorem mem_protectedFields (field : ProtectedField) : field ∈ protectedFields := by
  cases field <;> decide

/-- Every target field is listed. -/
@[simp] theorem mem_targetFields (field : TargetField) : field ∈ targetFields := by
  cases field <;> decide

namespace DelegationLineageFacts

/-- The value of a protected field. -/
def protectedFact (facts : DelegationLineageFacts) : ProtectedField → MetadataValue
  | .tenantId => .uuid facts.tenantId
  | .organizationId => .uuid facts.organizationId
  | .onBehalfOfUserId => .uuid facts.onBehalfOfUserId
  | .serviceActorId => .uuid facts.serviceActorId
  | .agentInstanceId => .uuid facts.agentInstanceId
  | .taskId => .uuid facts.taskId
  | .resourceId => .text facts.resourceId
  | .resourceType => .text facts.resourceType
  | .action => .text facts.action
  | .purpose => .text facts.purpose
  | .riskLevel => .text facts.riskLevel
  | .classification => .text (classificationValue facts.classification)
  | .delegationScope => .text facts.delegationScope
  | .authorizationDecisionId => .uuid facts.authorizationDecisionId

/-- The value of a target field, where it is set. -/
def target (facts : DelegationLineageFacts) : TargetField → Option MetadataValue
  | .crossValidationPlanId => facts.crossValidationPlanId.map .uuid
  | .crossValidationRunId => facts.crossValidationRunId.map .uuid
  | .providerInstanceId => facts.providerInstanceId.map .text
  | .modelId => facts.modelId.map .text
  | .mcpServerId => facts.mcpServerId.map .text
  | .toolId => facts.toolId.map .text
  | .connectorId => facts.connectorId.map .text

end DelegationLineageFacts

/-- Lineage fields in their declared order; an absent value is an explicit null. -/
abbrev CanonicalLineage := List (String × Option MetadataValue)

/-- The facts, field by field. -/
def canonicalizeDelegationLineage (facts : DelegationLineageFacts) : CanonicalLineage :=
  [("delegation_id", some (.uuid facts.delegationId)),
    ("tenant_id", some (.uuid facts.tenantId)),
    ("organization_id", some (.uuid facts.organizationId)),
    ("on_behalf_of_user_id", some (.uuid facts.onBehalfOfUserId)),
    ("service_actor_id", some (.uuid facts.serviceActorId)),
    ("agent_instance_id", some (.uuid facts.agentInstanceId)),
    ("task_id", some (.uuid facts.taskId)),
    ("resource_id", some (.text facts.resourceId)),
    ("resource_type", some (.text facts.resourceType)),
    ("action", some (.text facts.action)),
    ("purpose", some (.text facts.purpose)),
    ("risk_level", some (.text facts.riskLevel)),
    ("classification", some (.text (classificationValue facts.classification))),
    ("delegation_scope", some (.text facts.delegationScope)),
    ("authorization_decision_id", some (.uuid facts.authorizationDecisionId)),
    ("issued_at", some (.instant facts.issuedAt)),
    ("expires_at", facts.expiresAt.map .instant),
    ("parent_delegation_id", facts.parentDelegationId.map .uuid),
    ("cross_validation_plan_id", facts.crossValidationPlanId.map .uuid),
    ("cross_validation_run_id", facts.crossValidationRunId.map .uuid),
    ("provider_instance_id", facts.providerInstanceId.map .text),
    ("model_id", facts.modelId.map .text),
    ("mcp_server_id", facts.mcpServerId.map .text),
    ("tool_id", facts.toolId.map .text),
    ("connector_id", facts.connectorId.map .text)]

/-- A digest of lineage facts. There is one algorithm, one digest version and one
canonicalization version, so none of them is kept. -/
structure DelegationLineageDigest where
  digestValue : String
  lineageId : UUID
  parentLineageDigest : Option String := none
  attestationReference : Option String := none
  createdAt : DateTime
  deriving DecidableEq

/-- The exception classes of the lineage. -/
inductive LineageErrorKind
  | digest | continuity | stage | crossValidation
  deriving DecidableEq, Repr

/-- A typed failure with its message. -/
structure LineageError where
  kind : LineageErrorKind
  message : String
  deriving DecidableEq, Repr

section Hashing

variable (sha256 : CanonicalLineage → String)

/-- The digest of lineage facts. -/
def computeDelegationLineageDigest (facts : DelegationLineageFacts) (lineageId : UUID)
    (createdAt : DateTime) (parentLineageDigest attestationReference : Option String) :
    DelegationLineageDigest where
  digestValue := sha256 (canonicalizeDelegationLineage facts)
  lineageId := lineageId
  parentLineageDigest := parentLineageDigest
  attestationReference := attestationReference
  createdAt := createdAt

/-- A digest must be that of the facts. -/
def verifyDelegationLineageDigest (facts : DelegationLineageFacts)
    (digest : DelegationLineageDigest) : Except LineageError Unit :=
  let expected := computeDelegationLineageDigest sha256 facts digest.lineageId digest.createdAt
    digest.parentLineageDigest digest.attestationReference
  rejectIf (expected.digestValue ≠ digest.digestValue)
    ⟨.digest, "delegation lineage digest mismatch"⟩

/-- The lineage of a delegation at one boundary, with a digest of its own facts. -/
structure DelegationLineageRecord where
  lineageId : UUID
  facts : DelegationLineageFacts
  digest : DelegationLineageDigest
  parentLineageId : Option UUID := none
  lineageStage : LineageStage
  createdAt : DateTime
  sameIdentity : lineageId = digest.lineageId := by decide
  completeParent : parentLineageId = none ↔ digest.parentLineageDigest = none := by decide
  verified : verifyDelegationLineageDigest sha256 facts digest = .ok () := by decide
  deriving DecidableEq

/-- A record must continue the record before it: the same protected facts, no target
changed, at a later stage. -/
def validateLineageContinuity (upstream downstream : DelegationLineageRecord sha256)
    (requireAdjacentStage : Bool) : Except LineageError Unit := do
  verifyDelegationLineageDigest sha256 upstream.facts upstream.digest
  verifyDelegationLineageDigest sha256 downstream.facts downstream.digest
  rejectIf (downstream.parentLineageId ≠ some upstream.lineageId)
    ⟨.continuity, "downstream parent lineage identity mismatch"⟩
  rejectIf (downstream.digest.parentLineageDigest ≠ some upstream.digest.digestValue)
    ⟨.continuity, "downstream parent lineage digest mismatch"⟩
  rejectIf (∃ field ∈ protectedFields,
      upstream.facts.protectedFact field ≠ downstream.facts.protectedFact field)
    ⟨.continuity, "protected delegation lineage changed"⟩
  rejectIf (∃ field ∈ targetFields, upstream.facts.target field ≠ none ∧
      downstream.facts.target field ≠ upstream.facts.target field)
    ⟨.continuity, "lineage target was substituted"⟩
  rejectIf (downstream.lineageStage.order ≤ upstream.lineageStage.order)
    ⟨.stage, "lineage stage did not progress"⟩
  rejectIf (requireAdjacentStage = true ∧
      downstream.lineageStage.order ≠ upstream.lineageStage.order + 1)
    ⟨.stage, "mandatory lineage stage relationship was skipped"⟩

/-- One run of a cross-validation, with the lineage it was given. -/
structure CrossValidationLineageRun where
  runId : UUID
  agentInstanceId : UUID
  credentialGrantId : UUID
  rootLineageId : UUID
  rootLineageDigest : String
  childLineage : DelegationLineageRecord sha256
  deriving DecidableEq

end Hashing

variable {sha256 : CanonicalLineage → String}

/-- The facts a run must share with its root, as the source compares them. -/
def sharesRootFacts (root child : DelegationLineageFacts) : Prop :=
  child.tenantId = root.tenantId ∧
  child.organizationId = root.organizationId ∧
  child.onBehalfOfUserId = root.onBehalfOfUserId ∧
  child.taskId = root.taskId ∧
  child.resourceId = root.resourceId ∧
  child.action = root.action ∧
  child.purpose = root.purpose ∧
  child.riskLevel = root.riskLevel ∧
  child.classification = root.classification ∧
  child.delegationScope = root.delegationScope ∧
  child.authorizationDecisionId = root.authorizationDecisionId

instance (root child : DelegationLineageFacts) : Decidable (sharesRootFacts root child) :=
  inferInstanceAs (Decidable (_ ∧ _ ∧ _ ∧ _ ∧ _ ∧ _ ∧ _ ∧ _ ∧ _ ∧ _ ∧ _))

/-- One run must descend from the root. -/
def validateCrossValidationLineageRun (root : DelegationLineageRecord sha256)
    (run : CrossValidationLineageRun sha256) : Except LineageError Unit := do
  let child := run.childLineage
  verifyDelegationLineageDigest sha256 child.facts child.digest
  rejectIf (run.rootLineageId ≠ root.lineageId ∨
      run.rootLineageDigest ≠ root.digest.digestValue)
    ⟨.crossValidation, "cross-validation root lineage mismatch"⟩
  rejectIf (¬ sharesRootFacts root.facts child.facts)
    ⟨.crossValidation, "cross-validation protected lineage changed"⟩
  rejectIf (child.parentLineageId ≠ some root.lineageId)
    ⟨.crossValidation, "cross-validation child parent is missing"⟩
  rejectIf (child.digest.parentLineageDigest ≠ some root.digest.digestValue)
    ⟨.crossValidation, "cross-validation child digest is discontinuous"⟩
  rejectIf (child.facts.crossValidationRunId ≠ some run.runId)
    ⟨.crossValidation, "cross-validation run lineage mismatch"⟩
  rejectIf (child.facts.agentInstanceId ≠ run.agentInstanceId)
    ⟨.crossValidation, "cross-validation agent lineage mismatch"⟩

/-- The runs of a cross-validation must be distinct and descend from one root. -/
def validateCrossValidationLineageSet (root : DelegationLineageRecord sha256)
    (runs : List (CrossValidationLineageRun sha256))
    (requireDistinctAgents requireDistinctCredentials : Bool) : Except LineageError Unit := do
  rejectIf (runs = []) ⟨.crossValidation, "cross-validation lineage is missing"⟩
  rejectIf (¬ (runs.map (·.runId)).Nodup)
    ⟨.crossValidation, "cross-validation run identity was reused"⟩
  rejectIf (requireDistinctAgents = true ∧ ¬ (runs.map (·.agentInstanceId)).Nodup)
    ⟨.crossValidation, "cross-validation agent identity was reused"⟩
  rejectIf (requireDistinctCredentials = true ∧ ¬ (runs.map (·.credentialGrantId)).Nodup)
    ⟨.crossValidation, "cross-validation credential grant was reused"⟩
  checkEach (validateCrossValidationLineageRun root) runs

end PolicyOS.ZeroTrust
