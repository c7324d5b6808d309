import PolicyOS.Metrics.AggregationDomain

/-!
# Classification of an aggregation

An accepted bundle is classified at least as high as its source with every part of it, and
as its records with the requests and policies they answer. Nothing bounds the rest from
above: the groupings it lists, the inputs of its requests, the requests without a record and
the policies nobody used.
-/

namespace PolicyOS.Metrics

open Foundation

variable {bundle : MetricAggregationBundle} {source : MetricResultBundle}
  {policies : List MetricAggregationPolicy}

/-! ## What an accepted part is classified -/

/-- A valid bundle of results is classified at least as high as every part of it. -/
structure Dominates (classification : DataClassification) (source : MetricResultBundle) : Prop where
  definitions : ∀ item ∈ source.definitions, notLower classification item.classification
  observations : ∀ item ∈ source.observations, notLower classification item.classification
  results : ∀ item ∈ source.results, notLower classification item.classification
  policies : ∀ item ∈ source.aggregationPolicies, notLower classification item.classification
  bindings : ∀ item ∈ source.trustedSourceBindings,
    notLower classification item.governanceContext.classification

theorem Dominates.mono {upper lower : DataClassification} (dominates : Dominates lower source)
    (higher : notLower upper lower) : Dominates upper source where
  definitions item listed := notLower_trans higher (dominates.definitions item listed)
  observations item listed := notLower_trans higher (dominates.observations item listed)
  results item listed := notLower_trans higher (dominates.results item listed)
  policies item listed := notLower_trans higher (dominates.policies item listed)
  bindings item listed := notLower_trans higher (dominates.bindings item listed)

/-- A validated bundle of results dominates its parts. -/
theorem dominates_of_validate (valid : validateMetricResultBundle source = .ok ()) :
    Dominates source.classification source := by
  simp only [validateMetricResultBundle, bind_eq_ok_iff, exists_unit_iff,
    checkEach_eq_ok_iff] at valid
  obtain ⟨-, -, -, -, -, -, entries, -, bindings, -, -⟩ := valid
  have entry : ∀ one ∈ source.entries, notLower source.classification one.2 := by
    intro one listed
    have checked := entries one listed
    simp only [MetricResultBundle.validateEntry, bind_eq_ok_iff, exists_unit_iff] at checked
    simpa [notLowerMetric] using checked.2
  simp only [MetricResultBundle.entries, List.mem_append, List.mem_map] at entry
  exact
    { definitions := fun item listed =>
        entry _ (.inl (.inl (.inl ⟨item, listed, rfl⟩)))
      observations := fun item listed =>
        entry _ (.inl (.inl (.inr ⟨item, listed, rfl⟩)))
      results := fun item listed => entry _ (.inl (.inr ⟨item, listed, rfl⟩))
      policies := fun item listed => entry _ (.inr ⟨item, listed, rfl⟩)
      bindings := fun item listed => by
        have checked := bindings item listed
        simp only [MetricResultBundle.validateBinding, bind_eq_ok_iff, exists_unit_iff] at checked
        simpa [notLowerMetric] using checked.2.2 }

/-- An accepted request is of a valid source, and is classified at least as high as its
policy and its grouping. -/
theorem request_classified {request : MetricAggregationRequest} {policy : MetricAggregationPolicy}
    (valid : validateMetricAggregationRequest request source policy = .ok ()) :
    validateMetricResultBundle source = .ok () ∧
      notLower request.classification policy.classification ∧
      ∀ grouping ∈ request.groupingSpecification,
        notLower request.classification grouping.classification := by
  simp only [validateMetricAggregationRequest, bind_eq_ok_iff, exists_unit_iff] at valid
  obtain ⟨isSource, valid⟩ := valid
  split at valid
  · cases valid
  simp only [bind_eq_ok_iff, exists_unit_iff] at valid
  obtain ⟨-, -, grouped, selected, -, -, -, -, classified⟩ := valid
  refine ⟨isSource, ?_, fun grouping isGrouping => ?_⟩
  · exact notLowerThan_eq_ok_iff.mp classified _ (by simp)
  · rw [MetricAggregationRequest.validateGrouping, Option.mem_def.mp isGrouping] at grouped
    simp only [validateMetricAggregationGrouping, bind_eq_ok_iff, exists_unit_iff] at grouped
    simpa [notLowerAggregation] using grouped.1.2

/-! ## Accepted bundles -/

/-- A request some record answers. -/
def Answered (bundle : MetricAggregationBundle) (request : MetricAggregationRequest) : Prop :=
  ∃ record ∈ bundle.aggregationRecords, bundle.requestOf record = some request

/-- A policy that a record or an answered request was validated with. -/
def Used (bundle : MetricAggregationBundle) (policies : List MetricAggregationPolicy)
    (policy : MetricAggregationPolicy) : Prop :=
  (∃ record ∈ bundle.aggregationRecords,
      lookup (·.aggregationPolicyId) policies record.aggregationPolicyId = some policy) ∨
    ∃ request ∈ bundle.aggregationRequests, Answered bundle request ∧
      lookup (·.aggregationPolicyId) policies request.aggregationPolicyId = some policy

/-- An accepted bundle is classified at least as high as its source, its records, and the
requests and policies of its records. -/
structure ClassifiedBundle (bundle : MetricAggregationBundle) (source : MetricResultBundle)
    (policies : List MetricAggregationPolicy) : Prop where
  source : Dominates bundle.classification source
  records : ∀ record ∈ bundle.aggregationRecords,
    notLower bundle.classification record.classification
  answered : ∀ request, Answered bundle request →
    notLower bundle.classification request.classification
  used : ∀ policy, Used bundle policies policy →
    notLower bundle.classification policy.classification
  grouped : ∀ request ∈ bundle.aggregationRequests,
    ∀ grouping ∈ request.groupingSpecification,
      notLower request.classification grouping.classification

/-- The request of a record is one of the bundle, and the record was validated with it. -/
theorem record_validated {record : MetricAggregationRecord} {request : MetricAggregationRequest}
    (valid : bundle.validateRecord policies record = .ok ())
    (isRequest : bundle.requestOf record = some request) :
    ∃ policy, lookup (·.aggregationPolicyId) policies record.aggregationPolicyId = some policy ∧
      notLower record.classification request.classification ∧
      notLower record.classification policy.classification := by
  rw [MetricAggregationBundle.validateRecord, isRequest] at valid
  cases isPolicy : lookup (·.aggregationPolicyId) policies record.aggregationPolicyId with
  | none => simp [isPolicy] at valid
  | some policy =>
      simp only [isPolicy, bind_eq_ok_iff, exists_unit_iff, validateMetricAggregationRecord,
        notLowerAggregation, notLowerThan_eq_ok_iff] at valid
      obtain ⟨⟨-, -, -, classified⟩, -⟩ := valid
      exact ⟨policy, rfl, classified _ (by simp), classified _ (by simp)⟩

theorem exists_requestOf {record : MetricAggregationRecord}
    (valid : bundle.validateRecord policies record = .ok ()) :
    ∃ request, bundle.requestOf record = some request := by
  cases isRequest : bundle.requestOf record with
  | none => simp [MetricAggregationBundle.validateRecord, isRequest] at valid
  | some request => exact ⟨request, rfl⟩

/-- What is accepted is classified. -/
theorem classified_of_validate
    (valid : validateMetricAggregationBundle bundle source policies = .ok ()) :
    ClassifiedBundle bundle source policies := by
  simp only [validateMetricAggregationBundle, bind_eq_ok_iff, exists_unit_iff,
    checkEach_eq_ok_iff, notLowerAggregation, notLowerThan_eq_ok_iff] at valid
  obtain ⟨-, -, requests, records, classified, -⟩ := valid
  have request : ∀ request ∈ bundle.aggregationRequests, ∃ policy,
      lookup (·.aggregationPolicyId) policies request.aggregationPolicyId = some policy ∧
        validateMetricAggregationRequest request source policy = .ok () := by
    intro request listed
    have checked := requests request listed
    unfold MetricAggregationBundle.validateRequest at checked
    split at checked
    next => cases checked
    next policy isPolicy =>
      simp only [bind_eq_ok_iff, exists_unit_iff] at checked
      exact ⟨policy, isPolicy, checked.2⟩
  have record : ∀ record ∈ bundle.aggregationRecords,
      notLower bundle.classification record.classification := fun record listed =>
    classified _ (List.mem_cons_of_mem _ (List.mem_map_of_mem listed))
  have answered : ∀ request, Answered bundle request →
      notLower bundle.classification request.classification := by
    rintro request ⟨one, listed, isRequest⟩
    obtain ⟨_, -, higher, -⟩ := record_validated (records one listed) isRequest
    exact notLower_trans (record one listed) higher
  obtain ⟨first, isFirst⟩ := List.exists_mem_of_ne_nil _ bundle.requested
  obtain ⟨_, -, isValid⟩ := request first isFirst
  refine
    { source := (dominates_of_validate (request_classified isValid).1).mono
        (classified _ List.mem_cons_self)
      records := record
      answered := answered
      used := ?_
      grouped := fun one listed => ?_ }
  · rintro policy (⟨one, listed, isPolicy⟩ | ⟨one, listed, isAnswered, isPolicy⟩)
    · obtain ⟨asked, isRequest⟩ := exists_requestOf (records one listed)
      obtain ⟨_, isOwn, -, higher⟩ := record_validated (records one listed) isRequest
      obtain rfl : _ = policy := Option.some.inj (isOwn.symm.trans isPolicy)
      exact notLower_trans (record one listed) higher
    · obtain ⟨_, isOwn, isValid⟩ := request one listed
      obtain rfl : _ = policy := Option.some.inj (isOwn.symm.trans isPolicy)
      exact notLower_trans (answered one isAnswered) (request_classified isValid).2.1
  · obtain ⟨_, -, isValid⟩ := request one listed
    exact (request_classified isValid).2.2

/-! ## No downgrade -/

/-- A bundle is classified at least as high as everything in it and everything it is made
of. -/
structure NoDowngrade (bundle : MetricAggregationBundle) (source : MetricResultBundle)
    (policies : List MetricAggregationPolicy) : Prop where
  source : Dominates bundle.classification source
  policies : ∀ policy ∈ policies, notLower bundle.classification policy.classification
  listed : ∀ grouping ∈ bundle.groupingSpecifications,
    notLower bundle.classification grouping.classification
  grouped : ∀ request ∈ bundle.aggregationRequests, ∀ grouping ∈ request.groupingSpecification,
    notLower bundle.classification grouping.classification
  inputs : ∀ request ∈ bundle.aggregationRequests, ∀ reference ∈ request.inputReferences,
    notLower bundle.classification reference.classification
  requests : ∀ request ∈ bundle.aggregationRequests,
    notLower bundle.classification request.classification
  records : ∀ record ∈ bundle.aggregationRecords,
    notLower bundle.classification record.classification

/-- What no check compares with the bundle is not classified above it: the listed groupings,
the inputs, the requests without a record and the policies nobody used. -/
structure LooseEndsBounded (bundle : MetricAggregationBundle)
    (policies : List MetricAggregationPolicy) : Prop where
  listed : ∀ grouping ∈ bundle.groupingSpecifications,
    notLower bundle.classification grouping.classification
  inputs : ∀ request ∈ bundle.aggregationRequests, ∀ reference ∈ request.inputReferences,
    notLower bundle.classification reference.classification
  unanswered : ∀ request ∈ bundle.aggregationRequests, ¬ Answered bundle request →
    notLower bundle.classification request.classification
  unused : ∀ policy ∈ policies, ¬ Used bundle policies policy →
    notLower bundle.classification policy.classification

/-- An accepted bundle downgrades nothing exactly if it bounds what no check compares with
it. -/
theorem noDowngrade_iff
    (valid : validateMetricAggregationBundle bundle source policies = .ok ()) :
    NoDowngrade bundle source policies ↔ LooseEndsBounded bundle policies := by
  have classified := classified_of_validate valid
  constructor
  · intro kept
    exact
      { listed := kept.listed
        inputs := kept.inputs
        unanswered := fun request listed _ => kept.requests request listed
        unused := fun policy given _ => kept.policies policy given }
  · intro bounded
    have requests : ∀ request ∈ bundle.aggregationRequests,
        notLower bundle.classification request.classification := by
      intro request listed
      by_cases isAnswered : Answered bundle request
      · exact classified.answered request isAnswered
      · exact bounded.unanswered request listed isAnswered
    refine
      { source := classified.source
        policies := fun policy given => ?_
        listed := bounded.listed
        grouped := fun request listed grouping isGrouping =>
          notLower_trans (requests request listed)
            (classified.grouped request listed grouping isGrouping)
        inputs := bounded.inputs
        requests := requests
        records := classified.records }
    by_cases isUsed : Used bundle policies policy
    · exact classified.used policy isUsed
    · exact bounded.unused policy given isUsed

namespace Sample

/-- The version of a definition. -/
def definitionVersion : MetricDefinitionVersion where
  metricDefinitionVersion := "definition-v1"
  metricContractVersion := "contract-v1"

/-- A governed quality metric. -/
def definition : MetricDefinition where
  metricDefinitionId := 1
  metricKey := "quality"
  valueType := .decimal
  measurementUnit := .ratio
  supportedScopes := [.evaluationPlan]
  definitionVersion := definitionVersion
  classification := .internal
  tenantId := 100
  organizationId := 101
  createdAt := 0

/-- A trusted plan. -/
def binding : TrustedSourceBinding where
  trustedSourceBindingId := 2
  sourceIdentity := { sourceType := .evaluationPlan, sourceId := 3 }
  governanceContext := { tenantId := 100, organizationId := 101, classification := .internal }
  lineageContext := { lineageId := 4, lineageDigestReference := "lineage" }
  status := .active
  createdAt := 0

/-- An observation of the plan. -/
def observation : MetricObservation where
  metricObservationId := 5
  metricDefinitionId := 1
  metricDefinitionVersion := definitionVersion
  trustedSourceBindingId := 2
  trustedSourceType := .evaluationPlan
  metricScope := .evaluationPlan
  tenantId := 100
  organizationId := 101
  actorId := 102
  classification := .internal
  lineageId := 4
  lineageDigestReference := "lineage"
  observedAt := 1

/-- The result of the observation. -/
def result : MetricResult where
  metricResultId := 6
  metricDefinitionId := 1
  metricDefinitionVersion := definitionVersion
  metricObservationId := 5
  trustedSourceBindingId := 2
  valueType := .decimal
  value := some (.decimal 1)
  status := .recorded
  resultVersion := { metricResultVersion := "result-v1", metricResultContractVersion := "v1" }
  tenantId := 100
  organizationId := 101
  actorId := 102
  classification := .internal
  lineageId := 4
  lineageDigestReference := "lineage"
  recordedAt := 2

/-- The policy of the aggregation. -/
def meanPolicy : MetricAggregationPolicy where
  aggregationPolicyId := 7
  metricDefinitionId := 1
  metricDefinitionVersion := definitionVersion
  aggregationMethod := .mean
  inputValueType := .decimal
  outputValueType := .decimal
  minimumResultCount := 1
  missingValuePolicy := .rejectMissing
  policyVersion := "policy-v1"
  policyRevision := 1
  tenantId := 100
  organizationId := 101
  classification := .internal
  createdAt := 0

/-- The bundle of the result. -/
def resultBundle : MetricResultBundle where
  metricResultBundleId := 8
  bundleVersion :=
    { metricResultBundleVersion := "bundle-v1", metricBundleContractVersion := "contract-v1" }
  definitions := [definition]
  trustedSourceBindings := [binding]
  observations := [observation]
  results := [result]
  aggregationPolicies := [meanPolicy]
  tenantId := 100
  organizationId := 101
  classification := .internal
  lineageId := 4
  lineageDigestReference := "lineage"
  createdAt := 3

/-- No limit but the results named. -/
def window : MetricAggregationWindow where
  aggregationWindowId := 9
  windowType := .explicitResultSet
  createdAt := 3

/-- The result as an input, of a classification. -/
def inputOf (classification : DataClassification) : MetricAggregationInputReference where
  aggregationInputReferenceId := 10
  metricResultId := 6
  metricResultVersion := "result-v1"
  metricDefinitionId := 1
  metricDefinitionVersion := definitionVersion
  metricObservationId := 5
  trustedSourceBindingId := 2
  metricResultBundleId := 8
  inputOrdinal := 1
  tenantId := 100
  organizationId := 101
  classification := classification
  lineageId := 4
  lineageDigestReference := "lineage"
  recordedAt := 2

/-- The lineage of the aggregation. -/
def aggregationLineage : MetricAggregationLineageReference where
  aggregationLineageReferenceId := 11
  rootLineageId := 4
  rootLineageDigestReference := "lineage"
  metricResultBundleId := 8
  metricResultIds := [6]
  aggregationPolicyId := 7
  aggregationWindowId := 9
  createdAt := 3

/-- The provenance of the aggregation. -/
def aggregationProvenance : MetricAggregationProvenanceReference where
  aggregationProvenanceReferenceId := 12
  metricResultBundleId := 8
  metricResultBundleVersion := "bundle-v1"
  metricDefinitionIds := [1]
  metricResultIds := [6]
  trustedSourceBindingIds := [2]
  aggregationPolicyId := 7
  aggregationPolicyVersion := "policy-v1"
  aggregationWindowId := 9
  policyRevision := 1
  recordedAt := 3

/-- The request of an input. -/
def requestOf (classification : DataClassification) : MetricAggregationRequest where
  metricAggregationRequestId := 13
  metricResultBundleId := 8
  metricResultBundleVersion := "bundle-v1"
  metricDefinitionIds := [1]
  aggregationPolicyId := 7
  aggregationPolicyVersion := "policy-v1"
  aggregationScope := .singleDefinition
  aggregationWindow := window
  inputReferences := [inputOf classification]
  lineageReference := aggregationLineage
  provenanceReference := aggregationProvenance
  policyRevision := 1
  tenantId := 100
  organizationId := 101
  classification := .internal
  requestedAt := 4
  ordinals := rfl
  distinct := List.nodup_singleton _

/-- The record of the request. -/
def record : MetricAggregationRecord where
  metricAggregationRecordId := 14
  metricAggregationRequestId := 13
  metricResultBundleId := 8
  aggregationPolicyId := 7
  aggregationMethod := .mean
  aggregationScope := .singleDefinition
  aggregationWindowId := 9
  inputReferenceIds := [10]
  outputValueType := .decimal
  aggregateValue := some (.decimal 1)
  status := .recorded
  lineageReference := aggregationLineage
  provenanceReference := aggregationProvenance
  tenantId := 100
  organizationId := 101
  classification := .internal
  recordedAt := 5

/-- The bundle of a request and its record, all internal but the input. -/
def bundleOf (classification : DataClassification) : MetricAggregationBundle where
  metricAggregationBundleId := 15
  bundleVersion :=
    { metricAggregationBundleVersion := "bundle-v1"
      aggregationBundleContractVersion := "contract-v1" }
  metricResultBundleId := 8
  aggregationRequests := [requestOf classification]
  aggregationRecords := [record]
  aggregationWindows := [window]
  lineageReferences := [aggregationLineage]
  provenanceReferences := [aggregationProvenance]
  tenantId := 100
  organizationId := 101
  classification := .internal
  rootLineageId := 4
  rootLineageDigestReference := "lineage"
  createdAt := 6
  requested := List.cons_ne_nil _ _

end Sample

/-- A bundle that is internal throughout downgrades nothing exactly if its loose ends are
bounded, and it is accepted. -/
theorem noDowngrade_iff_internal :
    validateMetricAggregationBundle (Sample.bundleOf .internal) Sample.resultBundle
        [Sample.meanPolicy] = .ok () ∧
      (NoDowngrade (Sample.bundleOf .internal) Sample.resultBundle [Sample.meanPolicy] ↔
        LooseEndsBounded (Sample.bundleOf .internal) [Sample.meanPolicy]) :=
  ⟨by decide +kernel, noDowngrade_iff (by decide +kernel)⟩

/-- An internal bundle is accepted with a restricted input. -/
theorem downgrade_accepted :
    validateMetricAggregationBundle (Sample.bundleOf .restricted) Sample.resultBundle
        [Sample.meanPolicy] = .ok () ∧
      ¬ NoDowngrade (Sample.bundleOf .restricted) Sample.resultBundle [Sample.meanPolicy] := by
  refine ⟨by decide +kernel, fun kept => ?_⟩
  have input := kept.inputs (Sample.requestOf .restricted) (List.mem_singleton.mpr rfl)
    (Sample.inputOf .restricted) (List.mem_singleton.mpr rfl)
  revert input
  decide

end PolicyOS.Metrics
