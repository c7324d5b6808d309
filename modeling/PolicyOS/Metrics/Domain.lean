import Mathlib.Data.String.Basic
import PolicyOS.Domain.Primitives
import PolicyOS.Foundation.Checked
import PolicyOS.Foundation.SortedBy

/-!
# Metric results

Definitions, observations, results and aggregation policies of metrics, and the bundle that
holds them together. Validation compares each part with what it is bound to, and refuses
whatever is classified lower than what it is made of.
-/

namespace PolicyOS.Metrics

open Foundation

/-! ## Errors -/

/-- The exception classes of the metrics package. A missing key raises none of them. -/
inductive MetricsErrorKind
  | definition | observation | value | result | aggregationPolicy | bundle | bindingMismatch
  | classification | lineage | ordering | duplicate | version | auditMetadata
  | aggregationWindow | aggregationGrouping | aggregationInput | aggregationRequest
  | aggregationRecord | aggregationBundle | aggregationClassification | aggregationLineage
  | aggregationProvenance | aggregationOrdering | aggregationAudit | duplicateAggregation
  | keyError
  deriving DecidableEq, Repr

/-- A typed error with its message. -/
structure MetricsError where
  kind : MetricsErrorKind
  message : String
  deriving DecidableEq, Repr

/-- The item of a key; the last one where several share it. -/
def lookup {Item Key : Type} [DecidableEq Key] (key : Item → Key) (items : List Item)
    (wanted : Key) : Option Item :=
  items.reverse.find? (key · = wanted)

theorem lookup_eq_some {Item Key : Type} [DecidableEq Key] {key : Item → Key} {items : List Item}
    {wanted : Key} {item : Item} (found : lookup key items wanted = some item) :
    item ∈ items ∧ key item = wanted :=
  ⟨List.mem_reverse.mp (List.mem_of_find?_eq_some found), by
    simpa using List.find?_some found⟩

/-- Every one of some classifications is reached. -/
def notLowerThan (error : MetricsError) (actual : DataClassification)
    (required : List DataClassification) : Except MetricsError Unit :=
  checkEach (fun one => rejectIf (¬ notLower actual one) error) required

/-- Nothing is lower than what it had to reach. -/
@[simp] theorem notLowerThan_eq_ok_iff {error : MetricsError} {actual : DataClassification}
    {required : List DataClassification} {value : Unit} :
    notLowerThan error actual required = .ok value ↔ ∀ one ∈ required, notLower actual one := by
  simp [notLowerThan]

/-- `not_lower` of the metric contracts. -/
def notLowerMetric : DataClassification → List DataClassification → Except MetricsError Unit :=
  notLowerThan ⟨.classification, "metric classification downgrade"⟩

/-! ## Vocabulary -/

/-- The trusted records a metric is observed of. -/
inductive TrustedSourceType
  | evaluationPlan | evaluationExecutionRecord | evaluationEvidenceBundle
  | evaluationValidationReport | evaluationPipelineRecord | crossValidationPlan
  | crossValidationRunCollection | consensusPackage | secretaryHandoff | modelRunResult
  | modelInvocationPermit | providerInvocationAudit | mcpAuthorizationDecision
  | mcpInvocationPermit | mcpToolResult | securityViolation | quarantineDecision
  | secretAccessAudit | observabilityBundle
  deriving DecidableEq, Repr

/-- The text a source type is stored and sorted by. -/
def TrustedSourceType.value : TrustedSourceType → String
  | .evaluationPlan => "evaluation_plan"
  | .evaluationExecutionRecord => "evaluation_execution_record"
  | .evaluationEvidenceBundle => "evaluation_evidence_bundle"
  | .evaluationValidationReport => "evaluation_validation_report"
  | .evaluationPipelineRecord => "evaluation_pipeline_record"
  | .crossValidationPlan => "cross_validation_plan"
  | .crossValidationRunCollection => "cross_validation_run_collection"
  | .consensusPackage => "consensus_package"
  | .secretaryHandoff => "secretary_handoff"
  | .modelRunResult => "model_run_result"
  | .modelInvocationPermit => "model_invocation_permit"
  | .providerInvocationAudit => "provider_invocation_audit"
  | .mcpAuthorizationDecision => "mcp_authorization_decision"
  | .mcpInvocationPermit => "mcp_invocation_permit"
  | .mcpToolResult => "mcp_tool_result"
  | .securityViolation => "security_violation"
  | .quarantineDecision => "quarantine_decision"
  | .secretAccessAudit => "secret_access_audit"
  | .observabilityBundle => "observability_bundle"

/-- The state of a binding. -/
inductive TrustedSourceBindingStatus
  | active | superseded | revoked | invalidated
  deriving DecidableEq, Repr

/-- What a value is. -/
inductive MetricValueType
  | integer | decimal | boolean | duration | currency | count | ratio | percentage
  | enumReference | textReference
  deriving DecidableEq, Repr

/-- What a value is measured in. -/
inductive MetricMeasurementUnit
  | none | count | ratio | percent | milliseconds | seconds | tokens | bytes
  | currencyReference | boolean | enumReference | textReference
  deriving DecidableEq, Repr

/-- What a metric is about. -/
inductive MetricScope
  | evaluationPlan | evaluationExecution | evidenceBundle | validationReport
  | evaluationPipeline | crossValidationPlan | crossValidationResult | consensusPackage
  | modelInvocation | providerInvocation | mcpOperation | crossValidationRun
  | secretaryHandoff | securityEvent | quarantineDecision | observabilityBundle
  deriving DecidableEq, Repr

/-- The scope of a metric observed of a source. Every source type has one. -/
def sourceScope : TrustedSourceType → MetricScope
  | .evaluationPlan => .evaluationPlan
  | .evaluationExecutionRecord => .evaluationExecution
  | .evaluationEvidenceBundle => .evidenceBundle
  | .evaluationValidationReport => .validationReport
  | .evaluationPipelineRecord => .evaluationPipeline
  | .crossValidationPlan => .crossValidationPlan
  | .crossValidationRunCollection => .crossValidationRun
  | .consensusPackage => .consensusPackage
  | .secretaryHandoff => .secretaryHandoff
  | .modelRunResult => .crossValidationResult
  | .modelInvocationPermit => .modelInvocation
  | .providerInvocationAudit => .providerInvocation
  | .mcpAuthorizationDecision => .mcpOperation
  | .mcpInvocationPermit => .mcpOperation
  | .mcpToolResult => .mcpOperation
  | .securityViolation => .securityEvent
  | .quarantineDecision => .quarantineDecision
  | .secretAccessAudit => .securityEvent
  | .observabilityBundle => .observabilityBundle

/-- The units a value of a type is measured in. -/
def valueUnits : MetricValueType → List MetricMeasurementUnit
  | .integer => [.none]
  | .decimal => [.none, .ratio]
  | .boolean => [.boolean]
  | .duration => [.milliseconds, .seconds]
  | .currency => [.currencyReference]
  | .count => [.count, .tokens, .bytes]
  | .ratio => [.ratio]
  | .percentage => [.percent]
  | .enumReference => [.enumReference]
  | .textReference => [.textReference]

/-- Whether a result carries a value. -/
inductive MetricResultStatus
  | recorded | unavailable | notApplicable | invalidated
  deriving DecidableEq, Repr

/-- How results are aggregated. -/
inductive MetricAggregationMethod
  | none | count | sum | mean | median | minimum | maximum | weightedMean | percentile
  | latest | first | allValuesReference
  deriving DecidableEq, Repr

/-- What becomes of results without a value. -/
inductive MetricMissingValuePolicy
  | rejectMissing | excludeUnavailable | requireAllRecorded | propagateUnavailable
  deriving DecidableEq, Repr

/-! ## Contracts -/

/-- The version of a definition. -/
structure MetricDefinitionVersion where
  metricDefinitionVersion : String
  metricContractVersion : String
  metricSchemaVersion : String := "metric-definition-schema-v1"
  deriving DecidableEq

/-- The version of a result. -/
structure MetricResultVersion where
  metricResultVersion : String
  metricResultContractVersion : String
  metricResultSchemaVersion : String := "metric-result-schema-v1"
  deriving DecidableEq

/-- The version of a bundle. -/
structure MetricResultBundleVersion where
  metricResultBundleVersion : String
  metricBundleContractVersion : String
  metricBundleSchemaVersion : String := "metric-bundle-schema-v1"
  deriving DecidableEq

/-- A metric. Its enumerated values are named exactly if it has any. -/
structure MetricDefinition where
  metricDefinitionId : UUID
  metricKey : String
  valueType : MetricValueType
  measurementUnit : MetricMeasurementUnit
  supportedScopes : List MetricScope
  definitionVersion : MetricDefinitionVersion
  classification : DataClassification
  tenantId : UUID
  organizationId : UUID
  allowedEnumValueReferences : List String := []
  createdAt : DateTime
  enumContract : allowedEnumValueReferences ≠ [] ↔ valueType = .enumReference := by decide
  deriving DecidableEq

/-- Which record a binding trusts. -/
structure TrustedSourceIdentityReference where
  sourceType : TrustedSourceType
  sourceId : UUID
  deriving DecidableEq

/-- Under which governance a record is trusted. -/
structure TrustedSourceGovernanceContext where
  tenantId : UUID
  organizationId : UUID
  classification : DataClassification
  authorizationDecisionId : Option UUID := none
  deriving DecidableEq

/-- The lineage of a trusted record. -/
structure TrustedSourceLineageContext where
  lineageId : UUID
  lineageDigestReference : String
  deriving DecidableEq

/-- A trusted record. -/
structure TrustedSourceBinding where
  trustedSourceBindingId : UUID
  sourceIdentity : TrustedSourceIdentityReference
  governanceContext : TrustedSourceGovernanceContext
  lineageContext : TrustedSourceLineageContext
  status : TrustedSourceBindingStatus
  createdAt : DateTime
  deriving DecidableEq

/-- An observation of a metric in a trusted record. -/
structure MetricObservation where
  metricObservationId : UUID
  metricDefinitionId : UUID
  metricDefinitionVersion : MetricDefinitionVersion
  trustedSourceBindingId : UUID
  trustedSourceType : TrustedSourceType
  metricScope : MetricScope
  authorizationDecisionId : Option UUID := none
  tenantId : UUID
  organizationId : UUID
  actorId : UUID
  classification : DataClassification
  lineageId : UUID
  lineageDigestReference : String
  observedAt : DateTime
  deriving DecidableEq

/-- A supplied value. -/
inductive MetricValue
  | integer (value : Int)
  | decimal (value : Rat)
  | boolean (value : Bool)
  | duration (value : Rat) (unit : MetricMeasurementUnit)
  | currency (value : Rat) (currencyCodeReference : String)
  | count (value : Nat)
  | ratio (value : Rat) (ratioBasisReference : String)
  | percentage (value : Rat)
  | enumReference (valueReference : String)
  | textReference (valueReference : String)
  deriving DecidableEq

/-- The type of a value. -/
def MetricValue.valueType : MetricValue → MetricValueType
  | .integer _ => .integer
  | .decimal _ => .decimal
  | .boolean _ => .boolean
  | .duration _ _ => .duration
  | .currency _ _ => .currency
  | .count _ => .count
  | .ratio _ _ => .ratio
  | .percentage _ => .percentage
  | .enumReference _ => .enumReference
  | .textReference _ => .textReference

/-- A result of a metric. A value is there exactly if the result is recorded. -/
structure MetricResult where
  metricResultId : UUID
  metricDefinitionId : UUID
  metricDefinitionVersion : MetricDefinitionVersion
  metricObservationId : UUID
  trustedSourceBindingId : UUID
  valueType : MetricValueType
  value : Option MetricValue
  status : MetricResultStatus
  reasonCodes : List String := []
  originalResultReference : Option UUID := none
  invalidationReference : Option String := none
  resultVersion : MetricResultVersion
  tenantId : UUID
  organizationId : UUID
  actorId : UUID
  classification : DataClassification
  lineageId : UUID
  lineageDigestReference : String
  recordedAt : DateTime
  valued : value ≠ none ↔ status = .recorded := by decide
  unreasoned : status = .recorded → reasonCodes = [] := by decide
  reasoned : status = .unavailable → reasonCodes ≠ [] := by decide
  invalidation : status = .invalidated ↔
    originalResultReference ≠ none ∧ invalidationReference ≠ none := by decide
  typed : ∀ given ∈ value, given.valueType = valueType := by decide
  deriving DecidableEq

/-- How the results of a metric are aggregated. -/
structure MetricAggregationPolicy where
  aggregationPolicyId : UUID
  metricDefinitionId : UUID
  metricDefinitionVersion : MetricDefinitionVersion
  aggregationMethod : MetricAggregationMethod
  inputValueType : MetricValueType
  outputValueType : MetricValueType
  minimumResultCount : Nat
  percentileReference : Option String := none
  weightPolicyReference : Option String := none
  groupingKeyReferences : List String := []
  missingValuePolicy : MetricMissingValuePolicy
  policyVersion : String
  policyRevision : Nat
  tenantId : UUID
  organizationId : UUID
  classification : DataClassification
  createdAt : DateTime
  counting : 1 ≤ minimumResultCount := by decide
  percentile : aggregationMethod = .percentile ↔ percentileReference ≠ none := by decide
  weighted : aggregationMethod = .weightedMean ↔ weightPolicyReference ≠ none := by decide
  deriving DecidableEq

/-- The counts of a bundle, supplied with it. -/
structure MetricResultBundleAuditMetadata where
  metricResultBundleId : UUID
  bundleVersion : String
  definitionCount : Nat
  observationCount : Nat
  resultCount : Nat
  recordedResultCount : Nat
  unavailableResultCount : Nat
  notApplicableResultCount : Nat
  invalidatedResultCount : Nat
  trustedBindingCount : Nat
  tenantId : UUID
  organizationId : UUID
  classification : DataClassification
  createdAt : DateTime
  deriving DecidableEq

/-- A bundle of results with all they are made of. -/
structure MetricResultBundle where
  metricResultBundleId : UUID
  bundleVersion : MetricResultBundleVersion
  definitions : List MetricDefinition
  trustedSourceBindings : List TrustedSourceBinding
  observations : List MetricObservation
  results : List MetricResult
  aggregationPolicies : List MetricAggregationPolicy
  tenantId : UUID
  organizationId : UUID
  classification : DataClassification
  lineageId : UUID
  lineageDigestReference : String
  auditMetadata : Option MetricResultBundleAuditMetadata := none
  createdAt : DateTime
  deriving DecidableEq

/-! ## Validation of the parts -/

/-- A definition has the schema and a unit of its type. -/
def validateMetricDefinition (definition : MetricDefinition) : Except MetricsError Unit := do
  rejectIf (definition.definitionVersion.metricSchemaVersion ≠ "metric-definition-schema-v1")
    ⟨.version, "unsupported metric definition schema"⟩
  rejectIf (definition.measurementUnit ∉ valueUnits definition.valueType)
    ⟨.definition, "metric definition value type and unit mismatch"⟩

/-- A value is one of its definition. -/
def validateMetricValue (value : MetricValue) (definition : MetricDefinition) :
    Except MetricsError Unit := do
  rejectIf (value.valueType ≠ definition.valueType)
    ⟨.value, "metric value and definition type mismatch"⟩
  match value with
  | .enumReference reference =>
      rejectIf (reference ∉ definition.allowedEnumValueReferences)
        ⟨.value, "metric enum reference is not allowed"⟩
  | _ => pure ()

/-- An observation is of its definition and of an active binding. -/
def validateMetricObservation (observation : MetricObservation) (definition : MetricDefinition)
    (binding : TrustedSourceBinding) : Except MetricsError Unit := do
  rejectIf (observation.metricDefinitionId ≠ definition.metricDefinitionId ∨
      observation.metricDefinitionVersion ≠ definition.definitionVersion)
    ⟨.bindingMismatch, "metric observation definition mismatch"⟩
  rejectIf (binding.status ≠ .active)
    ⟨.observation, "metric observation requires active trusted binding"⟩
  rejectIf (observation.metricScope ≠ sourceScope binding.sourceIdentity.sourceType ∨
      observation.metricScope ∉ definition.supportedScopes ∨
      observation.trustedSourceType ≠ binding.sourceIdentity.sourceType ∨
      observation.trustedSourceBindingId ≠ binding.trustedSourceBindingId)
    ⟨.observation, "metric observation scope is unsupported"⟩
  let expectedScope := (definition.tenantId, definition.organizationId)
  let governance := binding.governanceContext
  rejectIf ((observation.tenantId, observation.organizationId) ≠ expectedScope ∨
      (governance.tenantId, governance.organizationId) ≠ expectedScope)
    ⟨.bindingMismatch, "metric observation tenant or organization mismatch"⟩
  rejectIf (observation.lineageId ≠ binding.lineageContext.lineageId ∨
      observation.lineageDigestReference ≠ binding.lineageContext.lineageDigestReference)
    ⟨.lineage, "metric observation lineage mismatch"⟩
  rejectIf (definition.createdAt > observation.observedAt ∨
      binding.createdAt > observation.observedAt)
    ⟨.observation, "metric observation precedes its source"⟩
  rejectIf (observation.authorizationDecisionId ≠ none ∧
      observation.authorizationDecisionId ≠ governance.authorizationDecisionId)
    ⟨.bindingMismatch, "metric observation authorization mismatch"⟩
  notLowerMetric observation.classification
    [definition.classification, governance.classification]

/-- A result is of its observation, its definition and its binding. -/
def validateMetricResult (result : MetricResult) (observation : MetricObservation)
    (definition : MetricDefinition) (binding : TrustedSourceBinding) :
    Except MetricsError Unit := do
  rejectIf (result.metricDefinitionId ≠ definition.metricDefinitionId ∨
      result.metricDefinitionVersion ≠ definition.definitionVersion ∨
      result.metricObservationId ≠ observation.metricObservationId ∨
      result.trustedSourceBindingId ≠ observation.trustedSourceBindingId ∨
      result.trustedSourceBindingId ≠ binding.trustedSourceBindingId)
    ⟨.bindingMismatch, "metric result binding mismatch"⟩
  rejectIf (result.valueType ≠ definition.valueType)
    ⟨.value, "metric result definition value type mismatch"⟩
  checkEach (validateMetricValue · definition) result.value.toList
  rejectIf ((result.tenantId, result.organizationId, result.actorId) ≠
      (observation.tenantId, observation.organizationId, observation.actorId))
    ⟨.bindingMismatch, "metric result scope or actor mismatch"⟩
  rejectIf (result.lineageId ≠ observation.lineageId ∨
      result.lineageDigestReference ≠ observation.lineageDigestReference)
    ⟨.lineage, "metric result lineage mismatch"⟩
  rejectIf (observation.observedAt > result.recordedAt)
    ⟨.result, "metric result precedes observation"⟩
  notLowerMetric result.classification
    [definition.classification, binding.governanceContext.classification,
      observation.classification]

/-- The methods that keep the type of their inputs. -/
def MetricAggregationMethod.typePreserving : List MetricAggregationMethod :=
  [.none, .latest, .first, .allValuesReference]

/-- A policy is of its definition. -/
def validateMetricAggregationPolicy (policy : MetricAggregationPolicy)
    (definition : MetricDefinition) : Except MetricsError Unit := do
  rejectIf (policy.metricDefinitionId ≠ definition.metricDefinitionId ∨
      policy.metricDefinitionVersion ≠ definition.definitionVersion ∨
      policy.inputValueType ≠ definition.valueType ∨
      (policy.tenantId, policy.organizationId) ≠ (definition.tenantId, definition.organizationId))
    ⟨.aggregationPolicy, "metric aggregation policy binding mismatch"⟩
  rejectIf (policy.aggregationMethod ∈ MetricAggregationMethod.typePreserving ∧
      policy.outputValueType ≠ policy.inputValueType)
    ⟨.aggregationPolicy, "aggregation metadata value types mismatch"⟩
  rejectIf (policy.aggregationMethod = .count ∧ policy.outputValueType ≠ .count)
    ⟨.aggregationPolicy, "count aggregation metadata requires count output"⟩
  notLowerMetric policy.classification [definition.classification]

/-! ## Validation of a bundle -/

/-- The counts of a bundle, as they have to be supplied. -/
def MetricResultBundle.expectedAudit (bundle : MetricResultBundle)
    (classification : DataClassification) : MetricResultBundleAuditMetadata :=
  let counts (status : MetricResultStatus) := (bundle.results.map (·.status)).count status
  { metricResultBundleId := bundle.metricResultBundleId
    bundleVersion := bundle.bundleVersion.metricResultBundleVersion
    definitionCount := bundle.definitions.length
    observationCount := bundle.observations.length
    resultCount := bundle.results.length
    recordedResultCount := counts .recorded
    unavailableResultCount := counts .unavailable
    notApplicableResultCount := counts .notApplicable
    invalidatedResultCount := counts .invalidated
    trustedBindingCount := bundle.trustedSourceBindings.length
    tenantId := bundle.tenantId
    organizationId := bundle.organizationId
    classification := classification
    createdAt := bundle.createdAt }

/-- The supplied counts of a bundle are its counts. -/
def validateMetricAudit (bundle : MetricResultBundle) : Except MetricsError Unit :=
  match bundle.auditMetadata with
  | none => pure ()
  | some audit => do
      rejectIf (audit ≠ bundle.expectedAudit audit.classification)
        ⟨.auditMetadata, "metric bundle audit metadata mismatch"⟩
      notLowerMetric audit.classification [bundle.classification]

namespace MetricResultBundle

variable (bundle : MetricResultBundle)

/-- Every part is in its order. -/
def validateOrder : Except MetricsError Unit := do
  rejectIf (bundle.definitions ≠ sortedBy
      (fun item => toLex (item.metricKey, item.metricDefinitionId)) bundle.definitions)
    ⟨.bundle, "metric definitions are not canonical"⟩
  rejectIf (bundle.trustedSourceBindings ≠ sortedBy (fun item =>
      toLex (item.sourceIdentity.sourceType.value,
        toLex (item.sourceIdentity.sourceId, item.trustedSourceBindingId)))
      bundle.trustedSourceBindings)
    ⟨.bundle, "metric trusted bindings are not canonical"⟩
  rejectIf (bundle.observations ≠ sortedBy
      (fun item => toLex (item.observedAt, item.metricObservationId)) bundle.observations)
    ⟨.bundle, "metric observations are not canonical"⟩
  rejectIf (bundle.results ≠ sortedBy
      (fun item => toLex (item.recordedAt, item.metricResultId)) bundle.results)
    ⟨.bundle, "metric results are not canonical"⟩
  rejectIf (bundle.aggregationPolicies ≠
      sortedBy (·.aggregationPolicyId) bundle.aggregationPolicies)
    ⟨.bundle, "metric aggregation policies are not canonical"⟩

/-- No part is there twice. -/
def validateIdentities : Except MetricsError Unit :=
  rejectIf (¬ (bundle.definitions.map (·.metricDefinitionId)).Nodup ∨
      ¬ (bundle.trustedSourceBindings.map (·.trustedSourceBindingId)).Nodup ∨
      ¬ (bundle.observations.map (·.metricObservationId)).Nodup ∨
      ¬ (bundle.results.map (·.metricResultId)).Nodup ∨
      ¬ (bundle.aggregationPolicies.map (·.aggregationPolicyId)).Nodup)
    ⟨.duplicate, "metric bundle contains duplicate identity"⟩

/-- The definition of an identifier. -/
def definition : UUID → Option MetricDefinition :=
  lookup (·.metricDefinitionId) bundle.definitions

/-- The binding of an identifier. -/
def binding : UUID → Option TrustedSourceBinding :=
  lookup (·.trustedSourceBindingId) bundle.trustedSourceBindings

/-- The observation of an identifier. -/
def observation : UUID → Option MetricObservation :=
  lookup (·.metricObservationId) bundle.observations

/-- An observation is of parts of the bundle. -/
def validateObservation (observation : MetricObservation) : Except MetricsError Unit :=
  match bundle.definition observation.metricDefinitionId,
      bundle.binding observation.trustedSourceBindingId with
  | some definition, some binding => validateMetricObservation observation definition binding
  | _, _ => .error ⟨.bundle, "metric observation is orphaned"⟩

/-- A result is of parts of the bundle, and not later than it. -/
def validateResult (result : MetricResult) : Except MetricsError Unit :=
  match bundle.definition result.metricDefinitionId,
      bundle.observation result.metricObservationId,
      bundle.binding result.trustedSourceBindingId with
  | some definition, some observation, some binding => do
      validateMetricResult result observation definition binding
      rejectIf (result.recordedAt > bundle.createdAt)
        ⟨.bundle, "metric result follows bundle creation"⟩
  | _, _, _ => .error ⟨.bundle, "metric result is orphaned"⟩

/-- A policy is of a definition of the bundle. -/
def validatePolicy (policy : MetricAggregationPolicy) : Except MetricsError Unit :=
  match bundle.definition policy.metricDefinitionId with
  | some definition => validateMetricAggregationPolicy policy definition
  | none => .error ⟨.bundle, "metric aggregation policy is orphaned"⟩

/-- The scope and classification of every entry, in the order they are checked. -/
def entries : List ((UUID × UUID) × DataClassification) :=
  bundle.definitions.map (fun item => ((item.tenantId, item.organizationId), item.classification))
    ++ bundle.observations.map
      (fun item => ((item.tenantId, item.organizationId), item.classification))
    ++ bundle.results.map
      (fun item => ((item.tenantId, item.organizationId), item.classification))
    ++ bundle.aggregationPolicies.map
      (fun item => ((item.tenantId, item.organizationId), item.classification))

/-- An entry is of the scope of the bundle and not classified above it. -/
def validateEntry (entry : (UUID × UUID) × DataClassification) : Except MetricsError Unit := do
  rejectIf (entry.1 ≠ (bundle.tenantId, bundle.organizationId))
    ⟨.bindingMismatch, "metric bundle scope mismatch"⟩
  notLowerMetric bundle.classification [entry.2]

/-- A binding is active, of the scope of the bundle and not classified above it. -/
def validateBinding (binding : TrustedSourceBinding) : Except MetricsError Unit := do
  let governance := binding.governanceContext
  rejectIf (binding.status ≠ .active)
    ⟨.bundle, "metric bundle requires active trusted bindings"⟩
  rejectIf ((governance.tenantId, governance.organizationId) ≠
      (bundle.tenantId, bundle.organizationId))
    ⟨.bindingMismatch, "metric binding scope mismatch"⟩
  notLowerMetric bundle.classification [governance.classification]

/-- The lineage of every observation and every result. -/
def lineages : List (UUID × String) :=
  bundle.observations.map (fun item => (item.lineageId, item.lineageDigestReference)) ++
    bundle.results.map (fun item => (item.lineageId, item.lineageDigestReference))

end MetricResultBundle

/-- A bundle is in order, and every part of it fits the others. -/
def validateMetricResultBundle (bundle : MetricResultBundle) : Except MetricsError Unit := do
  bundle.validateOrder
  bundle.validateIdentities
  checkEach validateMetricDefinition bundle.definitions
  checkEach bundle.validateObservation bundle.observations
  checkEach bundle.validateResult bundle.results
  checkEach bundle.validatePolicy bundle.aggregationPolicies
  checkEach bundle.validateEntry bundle.entries
  rejectIf (¬ ((∀ item ∈ bundle.observations, item.trustedSourceBindingId ∈
        bundle.trustedSourceBindings.map (·.trustedSourceBindingId)) ∧
      ∀ item ∈ bundle.trustedSourceBindings, item.trustedSourceBindingId ∈
        bundle.observations.map (·.trustedSourceBindingId)))
    ⟨.bundle, "metric bundle contains orphan trusted binding"⟩
  checkEach bundle.validateBinding bundle.trustedSourceBindings
  checkEach (fun lineage => rejectIf
      (lineage ≠ (bundle.lineageId, bundle.lineageDigestReference))
      ⟨.lineage, "metric bundle lineage mismatch"⟩) bundle.lineages
  validateMetricAudit bundle

end PolicyOS.Metrics
