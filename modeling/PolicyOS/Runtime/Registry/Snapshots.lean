import Mathlib.Data.Prod.Lex
import Mathlib.Data.String.Basic
import PolicyOS.Foundation.Checked
import PolicyOS.Runtime.Ports.Domain

/-!
# Runtime action registry

The snapshot an action is resolved in, the request for a resolution and the
decision on it. Only the references that the audit trail repeats are kept of an
entry and its action definition.
-/

namespace PolicyOS.Runtime

/-- Where a registered action is in its own life. -/
inductive RuntimeActionStatus
  | active | disabled | retired | invalidated
  deriving DecidableEq, Repr

/-- Whether a resolution found its action. -/
inductive RuntimeActionResolutionStatus
  | resolved | denied
  deriving DecidableEq, Repr

/-- What identifies an action definition. -/
structure RuntimeActionIdentity where
  actionDefinitionId : BoundedId
  action : BoundedId
  actionVersion : BoundedVersion
  deriving DecidableEq

/-- A registered action. -/
structure RuntimeActionDefinition where
  identity : RuntimeActionIdentity
  deriving DecidableEq

/-- One action in a snapshot, with its status there. -/
structure RuntimeRegistrySnapshotEntry where
  runtimeRegistrySnapshotEntryId : UUID
  actionDefinition : RuntimeActionDefinition
  status : RuntimeActionStatus
  deriving DecidableEq

/-- The registry at one revision. -/
structure RuntimeActionRegistrySnapshot where
  runtimeRegistrySnapshotId : UUID
  registryRevision : PositiveInt
  entries : List RuntimeRegistrySnapshotEntry
  tenantId : UUID
  organizationId : UUID
  rootLineageId : UUID
  rootLineageDigestReference : BoundedId
  snapshotDigestReference : BoundedId
  deriving DecidableEq

/-- An exact reference to a snapshot. -/
structure RuntimeRegistrySnapshotReference where
  runtimeRegistrySnapshotId : UUID
  registryRevision : PositiveInt
  snapshotDigestReference : BoundedId
  tenantId : UUID
  organizationId : UUID
  classification : DataClassification
  deriving DecidableEq

/-- A request to resolve one action in one snapshot. -/
structure RuntimeActionResolutionRequest where
  runtimeActionResolutionRequestId : UUID
  snapshotReference : RuntimeRegistrySnapshotReference
  deriving DecidableEq

/-- The decision on a resolution: an entry exactly when it was resolved. -/
structure RuntimeActionResolutionDecision where
  runtimeActionResolutionDecisionId : UUID
  runtimeActionResolutionRequestId : UUID
  snapshotReference : RuntimeRegistrySnapshotReference
  decisionStatus : RuntimeActionResolutionStatus
  resolvedSnapshotEntryId : Option UUID := none
  classification : DataClassification
  outcome : decisionStatus = .resolved ↔ resolvedSnapshotEntryId ≠ none := by decide
  deriving DecidableEq

end PolicyOS.Runtime

/-!
# Registry snapshots

A snapshot of the registry with the definition of each of its actions, the request to resolve
one action in it, and the decision on the request, with the checks on them. The audit trail
reads less of each, and keeps its own view of them.
-/

namespace PolicyOS.Runtime.Registry

open Foundation

/-! ## Errors -/

/-- The exception classes of the registry. -/
inductive RuntimeRegistryErrorKind
  | canonicalOrder | lifecycle | revision | scope | classification | timestamp | requirement
  | resolution
  deriving DecidableEq, Repr

/-- A registry error with its message. -/
structure RuntimeRegistryError where
  kind : RuntimeRegistryErrorKind
  message : String
  deriving DecidableEq, Repr

/-! ## Action definitions -/

/-- What an action does, in the order of the values. -/
inductive RuntimeActionCapability
  | cancel | compensate | deploy | destroy | publish | quarantine | read | securityControl
  | transmit | write
  deriving DecidableEq, Repr

/-- The sources a permit may come from, in the order of the values. -/
inductive RuntimePermitSourceType
  | mcpGovernance | runtimePolicy | zeroTrust
  deriving DecidableEq, Repr

/-- Values of an enumeration listed once each, in order. -/
def inOrder (positions : List Nat) : Prop := positions.Pairwise (· < ·)

instance (positions : List Nat) : Decidable (inOrder positions) :=
  inferInstanceAs (Decidable (List.Pairwise _ _))

/-- The versions of an action. -/
structure RuntimeActionVersion where
  actionVersion : BoundedVersion
  actionContractVersion : BoundedVersion
  actionSchemaVersion : BoundedVersion
  deriving DecidableEq

/-- A schema of an input or an output. -/
structure RuntimeActionSchemaReference where
  schemaReference : BoundedId
  schemaVersion : BoundedVersion
  schemaDigestReference : BoundedId
  deriving DecidableEq

/-- What an action is done with. -/
structure RuntimeActionSelector where
  resourceReference : BoundedId
  purpose : BoundedId
  executionEnvironment : RuntimeExecutionEnvironment
  destinationReference : Option BoundedId := none
  modelId : Option BoundedId := none
  providerId : Option BoundedId := none
  toolId : Option BoundedId := none
  connectorId : Option BoundedId := none
  deriving DecidableEq

/-- The risk and the side effect of an action. -/
structure RuntimeActionRiskProfile where
  riskLevel : RuntimeRiskLevel
  sideEffectLevel : RuntimeActionSideEffectLevel
  sideEffectLevelReference : BoundedId
  sideEffectPolicyRevision : PositiveInt
  deriving DecidableEq

/-- A permit of one source that an action needs. -/
structure RuntimeSpecializedPermitRequirement where
  permitSourceType : RuntimePermitSourceType
  permitTypeReference : BoundedId
  permitPolicyRevision : PositiveInt
  deriving DecidableEq

/-- The permits an action needs. -/
structure RuntimeActionPermitRequirement where
  permitRequired : Bool
  permitSourceTypes : List RuntimePermitSourceType := []
  specializedRequirements : List RuntimeSpecializedPermitRequirement := []
  orderedSources : inOrder (permitSourceTypes.map (·.ctorIdx)) := by decide
  orderedRequirements : specializedRequirements.Pairwise fun earlier later =>
    toLex (earlier.permitSourceType.ctorIdx, earlier.permitTypeReference) <
      toLex (later.permitSourceType.ctorIdx, later.permitTypeReference) := by decide
  optional : permitRequired = false → permitSourceTypes = [] ∧ specializedRequirements = [] := by
    decide
  deriving DecidableEq

/-- No permit. -/
def RuntimeActionPermitRequirement.none : RuntimeActionPermitRequirement :=
  { permitRequired := false }

/-- A requirement with the policy behind it, exactly if it holds. -/
structure RuntimeActionPolicyRequirement where
  required : Bool
  policyReference : Option BoundedId := none
  policy : required = policyReference.isSome := by decide
  deriving DecidableEq

/-- Nothing. -/
def RuntimeActionPolicyRequirement.none : RuntimeActionPolicyRequirement := { required := false }

/-- A destination an action needs. -/
abbrev RuntimeActionDestinationRequirement := RuntimeActionPolicyRequirement

/-- Idempotency an action needs. -/
abbrev RuntimeActionIdempotencyRequirement := RuntimeActionPolicyRequirement

/-- Whether an action is retried, and how often. -/
structure RuntimeActionRetryEligibility where
  retryEligible : Bool
  maximumAttemptCount : PositiveInt
  retryPolicyReference : Option BoundedId := none
  policy : retryEligible = retryPolicyReference.isSome := by decide
  once : retryEligible = false → maximumAttemptCount.val = 1 := by decide
  deriving DecidableEq

/-- Whether an action is compensated, and by which. -/
structure RuntimeActionCompensationEligibility where
  compensationEligible : Bool
  compensationAction : Option RuntimeActionIdentity := none
  compensationPolicyReference : Option BoundedId := none
  policy : compensationEligible =
    (compensationAction.isSome && compensationPolicyReference.isSome) := by decide
  deriving DecidableEq

/-- No compensation. -/
def RuntimeActionCompensationEligibility.none : RuntimeActionCompensationEligibility :=
  { compensationEligible := false }

/-- The adapter an action runs on. -/
structure RuntimeActionAdapterReference where
  adapterReference : BoundedId
  adapterContractVersion : BoundedVersion
  adapterConfigurationReference : Option BoundedId := none
  deriving DecidableEq

/-- A registered action with everything declared about it. -/
structure RuntimeActionDefinition where
  identity : RuntimeActionIdentity
  version : RuntimeActionVersion
  capabilities : List RuntimeActionCapability
  selectors : RuntimeActionSelector
  riskProfile : RuntimeActionRiskProfile
  inputSchema : RuntimeActionSchemaReference
  outputSchema : RuntimeActionSchemaReference
  permitRequirement : RuntimeActionPermitRequirement
  destinationRequirement : RuntimeActionDestinationRequirement
  idempotencyRequirement : RuntimeActionIdempotencyRequirement
  retryEligibility : RuntimeActionRetryEligibility
  compensationEligibility : RuntimeActionCompensationEligibility
  adapter : RuntimeActionAdapterReference
  tenantId : UUID
  organizationId : UUID
  classification : DataClassification
  rootLineageId : UUID
  rootLineageDigestReference : BoundedId
  definitionDigestReference : BoundedId
  createdAt : DateTime
  sameVersion : identity.actionVersion = version.actionVersion := by decide
  capable : capabilities ≠ [] ∧ inOrder (capabilities.map (·.ctorIdx)) := by decide
  otherCompensation : compensationEligibility.compensationAction ≠ some identity := by decide
  deriving DecidableEq

/-! ## Snapshots -/

/-- What an entry of a status refers to. -/
def entryLifecycle (status : RuntimeActionStatus) (entryId : UUID)
    (reason : Option BoundedId) (original : Option UUID) (invalidation : Option BoundedId) : Prop :=
  match status with
  | .active => reason = none ∧ original = none ∧ invalidation = none
  | .disabled | .retired => reason ≠ none ∧ original = none ∧ invalidation = none
  | .invalidated => reason ≠ none ∧ original ≠ none ∧ invalidation ≠ none ∧ original ≠ some entryId

instance {status entryId reason original invalidation} :
    Decidable (entryLifecycle status entryId reason original invalidation) := by
  unfold entryLifecycle
  cases status <;> infer_instance

/-- One action in a snapshot, with its status there. -/
structure RuntimeRegistrySnapshotEntry where
  runtimeRegistrySnapshotEntryId : UUID
  actionDefinition : RuntimeActionDefinition
  status : RuntimeActionStatus
  registryRevision : PositiveInt
  statusReasonReference : Option BoundedId := none
  originalSnapshotEntryId : Option UUID := none
  invalidationReference : Option BoundedId := none
  recordedAt : DateTime
  lifecycle : entryLifecycle status runtimeRegistrySnapshotEntryId statusReasonReference
    originalSnapshotEntryId invalidationReference := by decide
  deriving DecidableEq

/-- The counts of a snapshot, supplied with it. -/
structure RuntimeRegistryAuditMetadata where
  definitionCount : NonNegativeInt
  activeCount : NonNegativeInt
  disabledCount : NonNegativeInt
  retiredCount : NonNegativeInt
  invalidatedCount : NonNegativeInt
  auditDigestReference : BoundedId
  deriving DecidableEq

/-- The versions of the registry contract. -/
structure RuntimeRegistryContractVersion where
  runtimeRegistryVersion : BoundedVersion
  runtimeRegistryContractVersion : BoundedVersion
  runtimeRegistrySchemaVersion : BoundedVersion
  deriving DecidableEq

/-- The registry at one revision. -/
structure RuntimeActionRegistrySnapshot where
  runtimeRegistrySnapshotId : UUID
  contractVersion : RuntimeRegistryContractVersion
  registryRevision : PositiveInt
  entries : List RuntimeRegistrySnapshotEntry
  tenantId : UUID
  organizationId : UUID
  classification : DataClassification
  rootLineageId : UUID
  rootLineageDigestReference : BoundedId
  snapshotDigestReference : BoundedId
  auditMetadata : RuntimeRegistryAuditMetadata
  createdAt : DateTime
  deriving DecidableEq

/-! ## Resolution -/

/-- A request to resolve one action in one snapshot. -/
structure RuntimeActionResolutionRequest where
  runtimeActionResolutionRequestId : UUID
  snapshotReference : RuntimeRegistrySnapshotReference
  actionIdentity : RuntimeActionIdentity
  selectors : RuntimeActionSelector
  riskLevel : RuntimeRiskLevel
  sideEffectLevelReference : BoundedId
  inputSchemaReference : BoundedId
  outputSchemaReference : BoundedId
  adapterReference : BoundedId
  tenantId : UUID
  organizationId : UUID
  classification : DataClassification
  rootLineageId : UUID
  rootLineageDigestReference : BoundedId
  requestedAt : DateTime
  deriving DecidableEq

/-- Why a resolution decided as it did, in the order of the values. -/
inductive RuntimeActionResolutionReasonCode
  | actionDisabled | actionInvalidated | actionRetired | actionUnknown | adapterMismatch
  | callerSupplied | classificationMismatch | revisionMismatch | riskMismatch | schemaMismatch
  | scopeMismatch | selectorMismatch | versionMismatch
  deriving DecidableEq, Repr

/-- The decision on a resolution: an entry exactly when it was resolved. -/
structure RuntimeActionResolutionDecision where
  runtimeActionResolutionDecisionId : UUID
  runtimeActionResolutionRequestId : UUID
  snapshotReference : RuntimeRegistrySnapshotReference
  decisionStatus : RuntimeActionResolutionStatus
  reasonCodes : List RuntimeActionResolutionReasonCode
  resolvedSnapshotEntryId : Option UUID := none
  tenantId : UUID
  organizationId : UUID
  classification : DataClassification
  rootLineageId : UUID
  rootLineageDigestReference : BoundedId
  decidedAt : DateTime
  orderedReasons : reasonCodes ≠ [] ∧ inOrder (reasonCodes.map (·.ctorIdx)) := by decide
  outcome : decisionStatus = .resolved ↔ resolvedSnapshotEntryId ≠ none := by decide
  deriving DecidableEq

/-! ## Checks -/

/-- A side effect that changes something. -/
def governedSideEffect : RuntimeActionSideEffectLevel → Bool
  | .none | .readOnly => false
  | _ => true

/-- A side effect outside the platform. -/
def externalSideEffect : RuntimeActionSideEffectLevel → Bool
  | .externalWrite | .publication | .externalTransmission | .deployment | .destructive
  | .securityControl | .quarantineAction => true
  | _ => false

/-- A side effect that must not be repeated. -/
def nonRetryableSideEffect : RuntimeActionSideEffectLevel → Bool
  | .publication | .deployment | .destructive | .securityControl | .quarantineAction => true
  | _ => false

/-- A definition must require what its side effect needs. -/
def validateRuntimeActionDefinition (definition : RuntimeActionDefinition) :
    Except RuntimeRegistryError Unit := do
  let sideEffect := definition.riskProfile.sideEffectLevel
  rejectIf (governedSideEffect sideEffect ∧ ¬ definition.permitRequirement.permitRequired)
    ⟨.requirement, "governed side effect requires a permit"⟩
  rejectIf (externalSideEffect sideEffect ∧ ¬ definition.destinationRequirement.required)
    ⟨.requirement, "external side effect requires destination policy"⟩
  rejectIf (externalSideEffect sideEffect ∧ definition.selectors.destinationReference = none)
    ⟨.requirement, "external side effect requires destination selector"⟩
  rejectIf (governedSideEffect sideEffect ∧ ¬ definition.idempotencyRequirement.required)
    ⟨.requirement, "write side effect requires idempotency policy"⟩
  rejectIf (nonRetryableSideEffect sideEffect ∧ definition.retryEligibility.retryEligible)
    ⟨.requirement, "sensitive side effect cannot be retry eligible"⟩

/-- What entries are ordered by. -/
def entryKey (entry : RuntimeRegistrySnapshotEntry) : String ×ₗ String ×ₗ String ×ₗ UUID :=
  toLex (entry.actionDefinition.identity.actionDefinitionId,
    toLex (entry.actionDefinition.identity.action,
      toLex (entry.actionDefinition.identity.actionVersion, entry.runtimeRegistrySnapshotEntryId)))

/-- Entries listed once each, in order. -/
def canonicalEntries (entries : List RuntimeRegistrySnapshotEntry) : Prop :=
  (entries.map entryKey).Pairwise (· < ·)

instance (entries : List RuntimeRegistrySnapshotEntry) : Decidable (canonicalEntries entries) :=
  inferInstanceAs (Decidable (List.Pairwise _ _))

/-- The entry an invalidated one refers to must be of its action and of an earlier revision. -/
def validateInvalidation (snapshot : RuntimeActionRegistrySnapshot)
    (entry : RuntimeRegistrySnapshotEntry) : Except RuntimeRegistryError Unit :=
  match snapshot.entries.reverse.find? fun other =>
      some other.runtimeRegistrySnapshotEntryId = entry.originalSnapshotEntryId with
  | none =>
      .error ⟨.lifecycle, "invalidated entry requires original entry in the same snapshot"⟩
  | some original => do
      rejectIf (original.actionDefinition.identity ≠ entry.actionDefinition.identity)
        ⟨.lifecycle, "invalidated entry and original must bind the same action identity"⟩
      rejectIf (entry.registryRevision ≠ snapshot.registryRevision)
        ⟨.revision, "invalidation must be recorded at the snapshot revision"⟩
      rejectIf (entry.registryRevision ≤ original.registryRevision)
        ⟨.revision, "invalidation requires an original entry from an earlier revision"⟩

/-- An entry must be in the scope of its snapshot. -/
def validateSnapshotEntry (snapshot : RuntimeActionRegistrySnapshot)
    (entry : RuntimeRegistrySnapshotEntry) : Except RuntimeRegistryError Unit := do
  let definition := entry.actionDefinition
  validateRuntimeActionDefinition definition
  rejectIf (snapshot.registryRevision < entry.registryRevision)
    ⟨.revision, "entry revision exceeds snapshot revision"⟩
  rejectIf (definition.tenantId ≠ snapshot.tenantId ∨
      definition.organizationId ≠ snapshot.organizationId)
    ⟨.scope, "action definition crosses snapshot scope"⟩
  rejectIf (definition.rootLineageId ≠ snapshot.rootLineageId)
    ⟨.scope, "action definition crosses snapshot lineage"⟩
  rejectIf (¬ notLower snapshot.classification definition.classification)
    ⟨.classification, "snapshot classification is below action definition"⟩
  rejectIf (entry.recordedAt < definition.createdAt ∨ snapshot.createdAt < entry.recordedAt)
    ⟨.timestamp, "registry timestamps are out of order"⟩
  match entry.status with
  | .invalidated => validateInvalidation snapshot entry
  | _ => .ok ()

/-- The counts of a snapshot are those of its entries. -/
def RuntimeActionRegistrySnapshot.counted (snapshot : RuntimeActionRegistrySnapshot) : Prop :=
  snapshot.auditMetadata.definitionCount.val = snapshot.entries.length ∧
  snapshot.auditMetadata.activeCount.val = snapshot.entries.countP (·.status = .active) ∧
  snapshot.auditMetadata.disabledCount.val = snapshot.entries.countP (·.status = .disabled) ∧
  snapshot.auditMetadata.retiredCount.val = snapshot.entries.countP (·.status = .retired) ∧
  snapshot.auditMetadata.invalidatedCount.val = snapshot.entries.countP (·.status = .invalidated)

instance (snapshot : RuntimeActionRegistrySnapshot) : Decidable snapshot.counted :=
  inferInstanceAs (Decidable (_ ∧ _ ∧ _ ∧ _ ∧ _))

/-- A snapshot must list its entries in order, at most one of them active for an action, and
count them. -/
def validateRuntimeRegistrySnapshot (snapshot : RuntimeActionRegistrySnapshot) :
    Except RuntimeRegistryError Unit := do
  rejectIf (¬ canonicalEntries snapshot.entries)
    ⟨.canonicalOrder, "snapshot entries must be unique and canonically ordered"⟩
  rejectIf (¬ ((snapshot.entries.filter (·.status = .active)).map
      (·.actionDefinition.identity)).Nodup)
    ⟨.lifecycle, "snapshot cannot contain multiple active entries for one action identity"⟩
  checkEach (validateSnapshotEntry snapshot) snapshot.entries
  rejectIf (¬ snapshot.counted)
    ⟨.lifecycle, "registry audit counts differ from snapshot entries"⟩

/-- A reference must name the snapshot. -/
def validateRuntimeRegistrySnapshotReference (reference : RuntimeRegistrySnapshotReference)
    (snapshot : RuntimeActionRegistrySnapshot) : Except RuntimeRegistryError Unit := do
  rejectIf (reference.runtimeRegistrySnapshotId ≠ snapshot.runtimeRegistrySnapshotId ∨
      reference.registryRevision ≠ snapshot.registryRevision ∨
      reference.snapshotDigestReference ≠ snapshot.snapshotDigestReference ∨
      reference.tenantId ≠ snapshot.tenantId ∨
      reference.organizationId ≠ snapshot.organizationId)
    ⟨.revision, "snapshot reference is not exact"⟩
  rejectIf (¬ notLower reference.classification snapshot.classification)
    ⟨.classification, "snapshot reference classification is below snapshot"⟩

/-- The request asks for the action as it is defined. -/
def RuntimeActionResolutionRequest.asks (request : RuntimeActionResolutionRequest)
    (definition : RuntimeActionDefinition) : Prop :=
  request.selectors = definition.selectors ∧
  request.riskLevel = definition.riskProfile.riskLevel ∧
  request.sideEffectLevelReference = definition.riskProfile.sideEffectLevelReference ∧
  request.inputSchemaReference = definition.inputSchema.schemaReference ∧
  request.outputSchemaReference = definition.outputSchema.schemaReference ∧
  request.adapterReference = definition.adapter.adapterReference

instance (request : RuntimeActionResolutionRequest) (definition : RuntimeActionDefinition) :
    Decidable (request.asks definition) :=
  inferInstanceAs (Decidable (_ ∧ _ ∧ _ ∧ _ ∧ _ ∧ _))

/-- The one active entry of the action that is asked for. -/
def resolveRuntimeAction (request : RuntimeActionResolutionRequest)
    (snapshot : RuntimeActionRegistrySnapshot) :
    Except RuntimeRegistryError RuntimeRegistrySnapshotEntry := do
  validateRuntimeRegistrySnapshot snapshot
  validateRuntimeRegistrySnapshotReference request.snapshotReference snapshot
  rejectIf (request.tenantId ≠ snapshot.tenantId ∨
      request.organizationId ≠ snapshot.organizationId ∨
      request.rootLineageId ≠ snapshot.rootLineageId)
    ⟨.scope, "resolution request crosses snapshot scope"⟩
  rejectIf (request.rootLineageDigestReference ≠ snapshot.rootLineageDigestReference)
    ⟨.scope, "resolution request lineage digest differs"⟩
  rejectIf (¬ notLower request.classification snapshot.classification)
    ⟨.classification, "resolution classification is below snapshot"⟩
  match snapshot.entries.filter (·.actionDefinition.identity = request.actionIdentity) with
  | [entry] => do
      rejectIf (entry.status ≠ .active) ⟨.lifecycle, "only active action may resolve"⟩
      rejectIf (¬ request.asks entry.actionDefinition)
        ⟨.resolution, "resolution request differs from action definition"⟩
      rejectIf (request.requestedAt < snapshot.createdAt)
        ⟨.timestamp, "resolution request predates snapshot"⟩
      pure entry
  | _ => .error ⟨.resolution, "action identity did not resolve exactly once"⟩

/-- The entry of a resolved decision must be the one the request resolves to. -/
def validateResolvedEntry (decision : RuntimeActionResolutionDecision)
    (request : RuntimeActionResolutionRequest) (snapshot : RuntimeActionRegistrySnapshot) :
    Except RuntimeRegistryError Unit :=
  match decision.decisionStatus with
  | .resolved => do
      let entry ← resolveRuntimeAction request snapshot
      rejectIf (decision.resolvedSnapshotEntryId ≠ some entry.runtimeRegistrySnapshotEntryId)
        ⟨.resolution, "decision resolved a substituted action entry"⟩
  | .denied => .ok ()

/-- A decision must be of the request, in the snapshot. -/
def validateRuntimeActionResolutionDecision (decision : RuntimeActionResolutionDecision)
    (request : RuntimeActionResolutionRequest) (snapshot : RuntimeActionRegistrySnapshot) :
    Except RuntimeRegistryError Unit := do
  validateRuntimeRegistrySnapshot snapshot
  validateRuntimeRegistrySnapshotReference request.snapshotReference snapshot
  rejectIf (decision.runtimeActionResolutionRequestId ≠ request.runtimeActionResolutionRequestId)
    ⟨.resolution, "decision request reference differs"⟩
  rejectIf (decision.snapshotReference ≠ request.snapshotReference)
    ⟨.revision, "decision snapshot reference differs"⟩
  rejectIf (decision.tenantId ≠ request.tenantId ∨
      decision.organizationId ≠ request.organizationId ∨
      decision.rootLineageId ≠ request.rootLineageId ∨
      decision.rootLineageDigestReference ≠ request.rootLineageDigestReference)
    ⟨.scope, "decision crosses resolution request scope"⟩
  rejectIf (¬ notLower decision.classification request.classification)
    ⟨.classification, "decision classification is below request"⟩
  rejectIf (decision.decidedAt < request.requestedAt)
    ⟨.timestamp, "decision predates resolution request"⟩
  validateResolvedEntry decision request snapshot

end PolicyOS.Runtime.Registry
