import PolicyOS.Domain.Identifiers
import PolicyOS.Metrics.Domain

/-!
# Metric aggregation

Requests to aggregate results of a bundle, the records supplied for them, and the bundle
of both. Nothing is computed: validation compares what a caller supplied with the results,
the policies and the requests it names.
-/

namespace PolicyOS.Metrics

open Foundation

/-- `_not_lower` of the aggregation contracts. -/
def notLowerAggregation : DataClassification → List DataClassification → Except MetricsError Unit :=
  notLowerThan ⟨.aggregationClassification, "metric aggregation classification downgrade"⟩

/-! ## Vocabulary -/

/-- What an aggregation ranges over. -/
inductive MetricAggregationScope
  | singleDefinition | multipleDefinitions | singleSource | multipleSources
  | singleEvaluationPipeline | multipleEvaluationPipelines | singleCrossValidationPlan
  | multipleCrossValidationRuns | singleModel | multipleModels | singleProvider
  | multipleProviders | tenantSummary | organizationSummary
  deriving DecidableEq, Repr

/-- What limits an aggregation. -/
inductive MetricAggregationWindowType
  | explicitResultSet | explicitTimeRange | evaluationPipeline | evaluationRun
  | crossValidationPlan | crossValidationRunSet | policyRevision | registryRevision
  | datasetManifest | datasetSplit
  deriving DecidableEq, Repr

/-- The window types in their order. -/
def MetricAggregationWindowType.members : List MetricAggregationWindowType :=
  [.explicitResultSet, .explicitTimeRange, .evaluationPipeline, .evaluationRun,
    .crossValidationPlan, .crossValidationRunSet, .policyRevision, .registryRevision,
    .datasetManifest, .datasetSplit]

/-- What an aggregation is grouped by. -/
inductive MetricAggregationGroupingDimension
  | metricDefinition | metricCategory | metricScope | trustedSourceType | sourceId
  | evaluationPipeline | crossValidationPlan | crossValidationRun | model | provider
  | mcpServer | mcpTool | policyRevision | registryRevision | datasetManifest | datasetSplit
  | tenant | organization | classification | lineageRoot
  deriving DecidableEq, Repr

/-- Whether a record carries an aggregate. -/
inductive MetricAggregationRecordStatus
  | recorded | unavailable | notApplicable | invalidated
  deriving DecidableEq, Repr

/-! ## Windows -/

/-- The data of a window. -/
structure MetricAggregationWindowFields where
  aggregationWindowId : UUID
  windowType : MetricAggregationWindowType
  startAt : Option DateTime := none
  endAt : Option DateTime := none
  evaluationPipelineId : Option UUID := none
  evaluationRunRequestId : Option UUID := none
  crossValidationPlanId : Option UUID := none
  crossValidationRunIds : List UUID := []
  policyRevision : Option Nat := none
  registryRevision : Option Nat := none
  datasetManifestReferenceId : Option UUID := none
  datasetSplitReferenceId : Option UUID := none
  createdAt : DateTime
  deriving DecidableEq

/-- Which limits a window sets. -/
def MetricAggregationWindowFields.markers (window : MetricAggregationWindowFields) : List Bool :=
  [window.startAt.isSome || window.endAt.isSome, window.evaluationPipelineId.isSome,
    window.evaluationRunRequestId.isSome, window.crossValidationPlanId.isSome,
    !window.crossValidationRunIds.isEmpty, window.policyRevision.isSome,
    window.registryRevision.isSome, window.datasetManifestReferenceId.isSome,
    window.datasetSplitReferenceId.isSome]

/-- A window sets the limit of its type. -/
def MetricAggregationWindowFields.required (window : MetricAggregationWindowFields) : Bool :=
  match window.windowType with
  | .explicitResultSet => true
  | .explicitTimeRange => window.startAt.isSome && window.endAt.isSome
  | .evaluationPipeline => window.evaluationPipelineId.isSome
  | .evaluationRun => window.evaluationRunRequestId.isSome
  | .crossValidationPlan => window.crossValidationPlanId.isSome
  | .crossValidationRunSet => !window.crossValidationRunIds.isEmpty
  | .policyRevision => window.policyRevision.isSome
  | .registryRevision => window.registryRevision.isSome
  | .datasetManifest => window.datasetManifestReferenceId.isSome
  | .datasetSplit => window.datasetSplitReferenceId.isSome

/-- A window sets exactly the limit of its type, and a range of time is in order. -/
def validateMetricAggregationWindow (window : MetricAggregationWindowFields) :
    Except MetricsError Unit := do
  let expected := if window.windowType = .explicitResultSet then 0 else 1
  rejectIf (window.required = false ∨ window.markers.count true ≠ expected)
    ⟨.aggregationWindow, "window fields do not match window type"⟩
  rejectIf (∃ startAt ∈ window.startAt, ∃ endAt ∈ window.endAt, startAt > endAt)
    ⟨.aggregationWindow, "window time range is reversed"⟩

/-- What limits an aggregation. -/
structure MetricAggregationWindow extends MetricAggregationWindowFields where
  contract : validateMetricAggregationWindow toMetricAggregationWindowFields = .ok () := by decide
  deriving DecidableEq

/-! ## References -/

/-- What an aggregation is grouped by. -/
structure MetricAggregationGroupingSpecification where
  groupingSpecificationId : UUID
  dimensions : List MetricAggregationGroupingDimension
  groupingKeyReferences : List String
  tenantId : UUID
  organizationId : UUID
  classification : DataClassification
  createdAt : DateTime
  deriving DecidableEq

/-- A result an aggregation is made of. -/
structure MetricAggregationInputReference where
  aggregationInputReferenceId : UUID
  metricResultId : UUID
  metricResultVersion : String
  metricDefinitionId : UUID
  metricDefinitionVersion : MetricDefinitionVersion
  metricObservationId : UUID
  trustedSourceBindingId : UUID
  metricResultBundleId : UUID
  inputOrdinal : Nat
  tenantId : UUID
  organizationId : UUID
  classification : DataClassification
  lineageId : UUID
  lineageDigestReference : String
  recordedAt : DateTime
  deriving DecidableEq

/-- Where an aggregation comes from. Its results are in order, and none of them twice. -/
structure MetricAggregationLineageReference where
  aggregationLineageReferenceId : UUID
  rootLineageId : UUID
  rootLineageDigestReference : String
  metricResultBundleId : UUID
  metricResultIds : List UUID
  aggregationPolicyId : UUID
  aggregationWindowId : UUID
  groupingSpecificationId : Option UUID := none
  parentAggregationRecordIds : List UUID := []
  createdAt : DateTime
  canonical : metricResultIds = sortedBy id metricResultIds ∧ metricResultIds.Nodup := by decide
  deriving DecidableEq

/-- What an aggregation is made with. -/
structure MetricAggregationProvenanceReference where
  aggregationProvenanceReferenceId : UUID
  metricResultBundleId : UUID
  metricResultBundleVersion : String
  metricDefinitionIds : List UUID
  metricResultIds : List UUID
  trustedSourceBindingIds : List UUID
  aggregationPolicyId : UUID
  aggregationPolicyVersion : String
  aggregationWindowId : UUID
  groupingSpecificationId : Option UUID := none
  policyRevision : Nat
  recordedAt : DateTime
  deriving DecidableEq

/-! ## Requests, records and bundles -/

/-- A request to aggregate results. Its inputs are numbered from one. -/
structure MetricAggregationRequest where
  metricAggregationRequestId : UUID
  metricResultBundleId : UUID
  metricResultBundleVersion : String
  metricDefinitionIds : List UUID
  aggregationPolicyId : UUID
  aggregationPolicyVersion : String
  aggregationScope : MetricAggregationScope
  aggregationWindow : MetricAggregationWindow
  groupingSpecification : Option MetricAggregationGroupingSpecification := none
  inputReferences : List MetricAggregationInputReference
  lineageReference : MetricAggregationLineageReference
  provenanceReference : MetricAggregationProvenanceReference
  policyRevision : Nat
  tenantId : UUID
  organizationId : UUID
  classification : DataClassification
  requestedAt : DateTime
  ordinals : inputReferences.map (·.inputOrdinal) =
    (List.range inputReferences.length).map (· + 1) := by decide
  distinct : (inputReferences.map (·.aggregationInputReferenceId)).Nodup := by decide
  deriving DecidableEq

/-- The record supplied for a request. -/
@[ext] structure MetricAggregationRecord where
  metricAggregationRecordId : UUID
  metricAggregationRequestId : UUID
  metricResultBundleId : UUID
  aggregationPolicyId : UUID
  aggregationMethod : MetricAggregationMethod
  aggregationScope : MetricAggregationScope
  aggregationWindowId : UUID
  groupingSpecificationId : Option UUID := none
  inputReferenceIds : List UUID
  outputValueType : MetricValueType
  aggregateValue : Option MetricValue
  status : MetricAggregationRecordStatus
  reasonCodes : List String := []
  originalAggregationRecordId : Option UUID := none
  invalidationReference : Option String := none
  lineageReference : MetricAggregationLineageReference
  provenanceReference : MetricAggregationProvenanceReference
  tenantId : UUID
  organizationId : UUID
  classification : DataClassification
  recordedAt : DateTime
  valued : aggregateValue ≠ none ↔ status = .recorded := by decide
  unreasoned : status = .recorded → reasonCodes = [] := by decide
  reasoned : status = .unavailable → reasonCodes ≠ [] := by decide
  invalidation : status = .invalidated ↔
    originalAggregationRecordId ≠ none ∧ invalidationReference ≠ none := by decide
  other : originalAggregationRecordId ≠ some metricAggregationRecordId := by decide
  typed : ∀ given ∈ aggregateValue, given.valueType = outputValueType := by decide

instance : DecidableEq MetricAggregationRecord := fun _ _ =>
  decidable_of_iff' _ MetricAggregationRecord.ext_iff

/-- The counts of a bundle, supplied with it. -/
structure MetricAggregationAuditMetadata where
  metricAggregationBundleId : UUID
  bundleVersion : String
  requestCount : Nat
  recordCount : Nat
  recordedCount : Nat
  unavailableCount : Nat
  notApplicableCount : Nat
  invalidatedCount : Nat
  inputReferenceCount : Nat
  groupingSpecificationCount : Nat
  windowCount : Nat
  tenantId : UUID
  organizationId : UUID
  classification : DataClassification
  createdAt : DateTime
  deriving DecidableEq

/-- The version of a bundle. -/
structure MetricAggregationBundleVersion where
  metricAggregationBundleVersion : String
  aggregationBundleContractVersion : String
  aggregationBundleSchemaVersion : String := "metric-aggregation-bundle-schema-v1"
  deriving DecidableEq

/-- Requests and records with all they refer to. -/
structure MetricAggregationBundle where
  metricAggregationBundleId : UUID
  bundleVersion : MetricAggregationBundleVersion
  metricResultBundleId : UUID
  aggregationRequests : List MetricAggregationRequest
  aggregationRecords : List MetricAggregationRecord
  aggregationWindows : List MetricAggregationWindow
  groupingSpecifications : List MetricAggregationGroupingSpecification := []
  lineageReferences : List MetricAggregationLineageReference
  provenanceReferences : List MetricAggregationProvenanceReference
  tenantId : UUID
  organizationId : UUID
  classification : DataClassification
  rootLineageId : UUID
  rootLineageDigestReference : String
  auditMetadata : Option MetricAggregationAuditMetadata := none
  createdAt : DateTime
  requested : aggregationRequests ≠ [] := by decide
  recorded : aggregationRecords ≠ [] := by decide
  deriving DecidableEq

/-! ## Validation of the parts -/

/-- A grouping is of a scope and not classified above what uses it. -/
def validateMetricAggregationGrouping (grouping : MetricAggregationGroupingSpecification)
    (tenantId organizationId : UUID) (classification : DataClassification) :
    Except MetricsError Unit := do
  rejectIf ((grouping.tenantId, grouping.organizationId) ≠ (tenantId, organizationId))
    ⟨.aggregationGrouping, "grouping scope mismatch"⟩
  notLowerAggregation classification [grouping.classification]

/-- An input is the result it names, and not classified below it. -/
def validateMetricAggregationInputReference (reference : MetricAggregationInputReference)
    (result : MetricResult) (bundle : MetricResultBundle) : Except MetricsError Unit := do
  rejectIf (reference.metricResultId ≠ result.metricResultId ∨
      reference.metricResultVersion ≠ result.resultVersion.metricResultVersion ∨
      reference.metricDefinitionId ≠ result.metricDefinitionId ∨
      reference.metricDefinitionVersion ≠ result.metricDefinitionVersion ∨
      reference.metricObservationId ≠ result.metricObservationId ∨
      reference.trustedSourceBindingId ≠ result.trustedSourceBindingId ∨
      reference.metricResultBundleId ≠ bundle.metricResultBundleId ∨
      reference.tenantId ≠ result.tenantId ∨
      reference.organizationId ≠ result.organizationId ∨
      reference.lineageId ≠ result.lineageId ∨
      reference.lineageDigestReference ≠ result.lineageDigestReference ∨
      reference.recordedAt ≠ result.recordedAt)
    ⟨.aggregationInput, "aggregation input binding mismatch"⟩
  notLowerAggregation reference.classification [result.classification]

/-- A lineage is that of what is aggregated, and no record is its own parent. -/
def validateMetricAggregationLineageReference (reference : MetricAggregationLineageReference)
    (bundle : MetricResultBundle) (policy : MetricAggregationPolicy) (windowId : UUID)
    (groupingId : Option UUID) (resultIds : List UUID) (recordId : Option UUID := none) :
    Except MetricsError Unit :=
  rejectIf (reference.rootLineageId ≠ bundle.lineageId ∨
      reference.rootLineageDigestReference ≠ bundle.lineageDigestReference ∨
      reference.metricResultBundleId ≠ bundle.metricResultBundleId ∨
      reference.metricResultIds ≠ sortedBy id resultIds ∨
      reference.aggregationPolicyId ≠ policy.aggregationPolicyId ∨
      reference.aggregationWindowId ≠ windowId ∨
      reference.groupingSpecificationId ≠ groupingId ∨
      ∃ own ∈ recordId, own ∈ reference.parentAggregationRecordIds)
    ⟨.aggregationLineage, "aggregation lineage binding mismatch"⟩

/-- A provenance is that of what is aggregated. -/
def validateMetricAggregationProvenanceReference
    (reference : MetricAggregationProvenanceReference) (bundle : MetricResultBundle)
    (policy : MetricAggregationPolicy) (windowId : UUID) (groupingId : Option UUID)
    (resultIds : List UUID) : Except MetricsError Unit :=
  let selected := bundle.results.filter (·.metricResultId ∈ resultIds)
  rejectIf (reference.metricResultBundleId ≠ bundle.metricResultBundleId ∨
      reference.metricResultBundleVersion ≠ bundle.bundleVersion.metricResultBundleVersion ∨
      reference.metricDefinitionIds ≠ sortedSet (selected.map (·.metricDefinitionId)) ∨
      reference.metricResultIds ≠ sortedBy id resultIds ∨
      reference.trustedSourceBindingIds ≠ sortedSet (selected.map (·.trustedSourceBindingId)) ∨
      reference.aggregationPolicyId ≠ policy.aggregationPolicyId ∨
      reference.aggregationPolicyVersion ≠ policy.policyVersion ∨
      reference.aggregationWindowId ≠ windowId ∨
      reference.groupingSpecificationId ≠ groupingId ∨
      reference.policyRevision ≠ policy.policyRevision)
    ⟨.aggregationProvenance, "aggregation provenance binding mismatch"⟩

namespace MetricAggregationRequest

variable (request : MetricAggregationRequest) (bundle : MetricResultBundle)
  (policy : MetricAggregationPolicy)

/-- The identifier of the grouping of a request. -/
def groupingId : Option UUID := request.groupingSpecification.map (·.groupingSpecificationId)

/-- A request is bound to its bundle and its policy. -/
def validateBinding : Except MetricsError Unit := do
  rejectIf (request.metricResultBundleId ≠ bundle.metricResultBundleId ∨
      request.metricResultBundleVersion ≠ bundle.bundleVersion.metricResultBundleVersion ∨
      request.aggregationPolicyId ≠ policy.aggregationPolicyId ∨
      request.aggregationPolicyVersion ≠ policy.policyVersion ∨
      request.policyRevision ≠ policy.policyRevision ∨
      request.tenantId ≠ bundle.tenantId ∨
      request.organizationId ≠ bundle.organizationId)
    ⟨.aggregationRequest, "aggregation request binding mismatch"⟩
  rejectIf (max (max bundle.createdAt policy.createdAt) request.aggregationWindow.createdAt >
      request.requestedAt)
    ⟨.aggregationRequest, "aggregation request precedes source metadata"⟩

/-- The grouping of a request is that of its policy. -/
def validateGrouping : Except MetricsError Unit :=
  match request.groupingSpecification with
  | some grouping => do
      validateMetricAggregationGrouping grouping request.tenantId request.organizationId
        request.classification
      rejectIf (grouping.createdAt > request.requestedAt ∨
          grouping.groupingKeyReferences ≠ policy.groupingKeyReferences)
        ⟨.aggregationGrouping, "grouping and policy mismatch"⟩
  | none =>
      rejectIf (policy.groupingKeyReferences ≠ [])
        ⟨.aggregationGrouping, "aggregation policy requires grouping"⟩

/-- The result an input names, if it is one the policy aggregates. -/
def selectInput (reference : MetricAggregationInputReference) :
    Except MetricsError MetricResult :=
  match lookup (·.metricResultId) bundle.results reference.metricResultId with
  | none => .error ⟨.aggregationInput, "aggregation input result is absent"⟩
  | some result => do
      validateMetricAggregationInputReference reference result bundle
      rejectIf (result.metricDefinitionId ≠ policy.metricDefinitionId ∨
          result.valueType ≠ policy.inputValueType)
        ⟨.aggregationInput, "aggregation input policy mismatch"⟩
      pure result

/-- The selected results are what the policy needs. -/
def validateSelected (selected : List MetricResult) : Except MetricsError Unit := do
  rejectIf (selected.length < policy.minimumResultCount)
    ⟨.aggregationInput, "aggregation input count below policy minimum"⟩
  rejectIf (∃ result ∈ selected, result.recordedAt > request.requestedAt)
    ⟨.aggregationInput, "aggregation input follows request"⟩
  rejectIf ((∃ result ∈ selected, result.status ≠ .recorded) ∧
      policy.missingValuePolicy ∈ [.rejectMissing, .requireAllRecorded])
    ⟨.aggregationInput, "aggregation policy rejects unavailable input"⟩
  rejectIf (request.metricDefinitionIds ≠ sortedSet (selected.map (·.metricDefinitionId)))
    ⟨.aggregationRequest, "aggregation definition set mismatch"⟩

end MetricAggregationRequest

/-- A request is of its bundle and its policy, and not classified below what it names. -/
def validateMetricAggregationRequest (request : MetricAggregationRequest)
    (bundle : MetricResultBundle) (policy : MetricAggregationPolicy) :
    Except MetricsError Unit := do
  validateMetricResultBundle bundle
  match bundle.definitions.find? (·.metricDefinitionId = policy.metricDefinitionId) with
  | none => .error ⟨.aggregationRequest, "aggregation policy definition is absent"⟩
  | some definition => do
      validateMetricAggregationPolicy policy definition
      request.validateBinding bundle policy
      request.validateGrouping policy
      let selected ← collectEach (MetricAggregationRequest.selectInput bundle policy)
        request.inputReferences
      request.validateSelected policy selected
      let resultIds := selected.map (·.metricResultId)
      let windowId := request.aggregationWindow.aggregationWindowId
      validateMetricAggregationLineageReference request.lineageReference bundle policy windowId
        request.groupingId resultIds
      validateMetricAggregationProvenanceReference request.provenanceReference bundle policy
        windowId request.groupingId resultIds
      notLowerAggregation request.classification
        (bundle.classification :: policy.classification :: selected.map (·.classification))

/-- A record answers its request, and is not classified below it or its policy. -/
def validateMetricAggregationRecord (record : MetricAggregationRecord)
    (request : MetricAggregationRequest) (policy : MetricAggregationPolicy) :
    Except MetricsError Unit := do
  rejectIf (record.metricAggregationRequestId ≠ request.metricAggregationRequestId ∨
      record.metricResultBundleId ≠ request.metricResultBundleId ∨
      record.aggregationPolicyId ≠ policy.aggregationPolicyId ∨
      record.aggregationMethod ≠ policy.aggregationMethod ∨
      record.aggregationScope ≠ request.aggregationScope ∨
      record.aggregationWindowId ≠ request.aggregationWindow.aggregationWindowId ∨
      record.groupingSpecificationId ≠ request.groupingId ∨
      record.inputReferenceIds ≠
        sortedBy id (request.inputReferences.map (·.aggregationInputReferenceId)) ∨
      record.outputValueType ≠ policy.outputValueType ∨
      record.tenantId ≠ request.tenantId ∨
      record.organizationId ≠ request.organizationId)
    ⟨.aggregationRecord, "aggregation record binding mismatch"⟩
  rejectIf (record.recordedAt < request.requestedAt)
    ⟨.aggregationRecord, "aggregation record precedes request"⟩
  rejectIf (record.lineageReference ≠ request.lineageReference ∨
      record.provenanceReference ≠ request.provenanceReference)
    ⟨.aggregationRecord, "record lineage or provenance mismatch"⟩
  notLowerAggregation record.classification [request.classification, policy.classification]

/-! ## Validation of a bundle -/

/-- A collection is in its order and holds nothing twice. -/
def validateCollection {Item Key : Type} [DecidableEq Item] [LinearOrder Key] (name : String)
    (order : Item → Key) (identity : Item → UUID) (items : List Item) :
    Except MetricsError Unit := do
  rejectIf (items ≠ sortedBy order items)
    ⟨.aggregationOrdering, name ++ " must be in canonical caller order"⟩
  rejectIf (¬ (items.map identity).Nodup)
    ⟨.duplicateAggregation, "duplicate aggregation " ++ name⟩

namespace MetricAggregationBundle

variable (bundle : MetricAggregationBundle)

/-- A bundle is of its source. -/
def validateSource (source : MetricResultBundle) : Except MetricsError Unit :=
  rejectIf (source.metricResultBundleId ≠ bundle.metricResultBundleId ∨
      source.tenantId ≠ bundle.tenantId ∨
      source.organizationId ≠ bundle.organizationId ∨
      source.lineageId ≠ bundle.rootLineageId ∨
      source.lineageDigestReference ≠ bundle.rootLineageDigestReference)
    ⟨.aggregationBundle, "aggregation source bundle mismatch"⟩

/-- Every collection is in its order and holds nothing twice. -/
def validateCollections : Except MetricsError Unit := do
  validateCollection "windows" (fun item =>
      toLex (MetricAggregationWindowType.members.idxOf item.windowType, item.aggregationWindowId))
    (·.aggregationWindowId) bundle.aggregationWindows
  validateCollection "groupings" (·.groupingSpecificationId) (·.groupingSpecificationId)
    bundle.groupingSpecifications
  validateCollection "requests"
    (fun item => toLex (item.requestedAt, item.metricAggregationRequestId))
    (·.metricAggregationRequestId) bundle.aggregationRequests
  validateCollection "records"
    (fun item => toLex (item.recordedAt, item.metricAggregationRecordId))
    (·.metricAggregationRecordId) bundle.aggregationRecords
  validateCollection "lineages" (·.aggregationLineageReferenceId)
    (·.aggregationLineageReferenceId) bundle.lineageReferences
  validateCollection "provenances" (·.aggregationProvenanceReferenceId)
    (·.aggregationProvenanceReferenceId) bundle.provenanceReferences

/-- The parts of a request are listed, by their identifiers. -/
def validateRequest (source : MetricResultBundle) (policies : List MetricAggregationPolicy)
    (request : MetricAggregationRequest) : Except MetricsError Unit :=
  match lookup (·.aggregationPolicyId) policies request.aggregationPolicyId with
  | none => .error ⟨.aggregationBundle, "aggregation request has orphan reference"⟩
  | some policy => do
      rejectIf (request.aggregationWindow.aggregationWindowId ∉
            bundle.aggregationWindows.map (·.aggregationWindowId) ∨
          (∃ grouping ∈ request.groupingSpecification, grouping.groupingSpecificationId ∉
            bundle.groupingSpecifications.map (·.groupingSpecificationId)) ∨
          request.lineageReference.aggregationLineageReferenceId ∉
            bundle.lineageReferences.map (·.aggregationLineageReferenceId) ∨
          request.provenanceReference.aggregationProvenanceReferenceId ∉
            bundle.provenanceReferences.map (·.aggregationProvenanceReferenceId))
        ⟨.aggregationBundle, "aggregation request has orphan reference"⟩
      validateMetricAggregationRequest request source policy

/-- The request of a record. -/
def requestOf (record : MetricAggregationRecord) : Option MetricAggregationRequest :=
  lookup (·.metricAggregationRequestId) bundle.aggregationRequests
    record.metricAggregationRequestId

/-- A record answers a request of the bundle. A policy that is not given is a missing key. -/
def validateRecord (policies : List MetricAggregationPolicy) (record : MetricAggregationRecord) :
    Except MetricsError Unit :=
  match bundle.requestOf record with
  | none => .error ⟨.aggregationBundle, "aggregation record is orphaned"⟩
  | some request =>
      match lookup (·.aggregationPolicyId) policies record.aggregationPolicyId with
      | none => .error ⟨.keyError, "UUID('" ++ uuidText record.aggregationPolicyId ++ "')"⟩
      | some policy => do
          validateMetricAggregationRecord record request policy
          rejectIf (record.recordedAt > bundle.createdAt)
            ⟨.aggregationBundle, "aggregation record follows bundle"⟩

/-- The counts of a bundle, as they have to be supplied. -/
def expectedAudit (classification : DataClassification) : MetricAggregationAuditMetadata :=
  let counts (status : MetricAggregationRecordStatus) :=
    (bundle.aggregationRecords.map (·.status)).count status
  { metricAggregationBundleId := bundle.metricAggregationBundleId
    bundleVersion := bundle.bundleVersion.metricAggregationBundleVersion
    requestCount := bundle.aggregationRequests.length
    recordCount := bundle.aggregationRecords.length
    recordedCount := counts .recorded
    unavailableCount := counts .unavailable
    notApplicableCount := counts .notApplicable
    invalidatedCount := counts .invalidated
    inputReferenceCount := (bundle.aggregationRequests.flatMap fun request =>
      request.inputReferences.map (·.aggregationInputReferenceId)).dedup.length
    groupingSpecificationCount := bundle.groupingSpecifications.length
    windowCount := bundle.aggregationWindows.length
    tenantId := bundle.tenantId
    organizationId := bundle.organizationId
    classification := classification
    createdAt := bundle.createdAt }

/-- The supplied counts of a bundle are its counts. -/
def validateAudit : Except MetricsError Unit :=
  match bundle.auditMetadata with
  | none => pure ()
  | some audit => do
      rejectIf (audit ≠ bundle.expectedAudit audit.classification)
        ⟨.aggregationAudit, "aggregation audit metadata mismatch"⟩
      notLowerAggregation audit.classification [bundle.classification]

end MetricAggregationBundle

/-- A bundle is of its source, its requests are of its source and their policies, and its
records answer its requests. -/
def validateMetricAggregationBundle (bundle : MetricAggregationBundle)
    (source : MetricResultBundle) (policies : List MetricAggregationPolicy) :
    Except MetricsError Unit := do
  bundle.validateSource source
  bundle.validateCollections
  checkEach (bundle.validateRequest source policies) bundle.aggregationRequests
  checkEach (bundle.validateRecord policies) bundle.aggregationRecords
  notLowerAggregation bundle.classification
    (source.classification :: bundle.aggregationRecords.map (·.classification))
  bundle.validateAudit

end PolicyOS.Metrics
