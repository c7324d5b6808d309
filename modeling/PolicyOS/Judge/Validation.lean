import PolicyOS.Judge.Domain

/-!
# Validation of Judge contracts

Each part is compared with what it is bound to: a policy with its criteria, an input with
the record it references, an assessment with all three, and a decision with its inputs and
the assessments it rests on.
-/

namespace PolicyOS.Judge

open Foundation Metrics

/-- A classification must reach every one it rests on. -/
def requireClassification (actual : DataClassification) (required : List DataClassification) :
    Except JudgeError Unit :=
  checkEach (fun one =>
    rejectIf (¬ notLower actual one) ⟨.classification, "judge classification downgrade"⟩) required

/-- The scopes of two parts must be the same. -/
def scope (actualTenant actualOrganization expectedTenant expectedOrganization : UUID) :
    Except JudgeError Unit := do
  rejectIf (actualTenant ≠ expectedTenant) ⟨.tenant, "judge tenant mismatch"⟩
  rejectIf (actualOrganization ≠ expectedOrganization)
    ⟨.organization, "judge organization mismatch"⟩

/-- The value an optional identifier finds, or an error. -/
def found {Item : Type} (item : Option Item) (error : JudgeError) : Except JudgeError Item :=
  match item with
  | none => .error error
  | some item => .ok item

/-! ## Policies -/

/-- A criterion must not be registered before its policy. -/
def validateJudgeCriterion (criterion : JudgeCriterion) : Except JudgeError Unit :=
  rejectIf (∃ revision ∈ criterion.registryRevision, revision < criterion.policyRevision)
    ⟨.version, "criterion registry revision precedes policy revision"⟩

/-- One criterion reference at its place must be of the policy and of a known criterion. -/
def validateCriterionReference (policy : JudgePolicy) (criteria : List JudgeCriterion)
    (earlier : List JudgePolicyCriterionReference) (reference : JudgePolicyCriterionReference) :
    Except JudgeError Unit := do
  rejectIf (reference.criterionSequence ≠ earlier.length + 1)
    ⟨.criterionOrdering, "criterion sequence must be contiguous from one"⟩
  rejectIf (reference.policyCriterionReferenceId ∈
      earlier.map (·.policyCriterionReferenceId))
    ⟨.duplicateReference, "duplicate policy criterion reference"⟩
  rejectIf (reference.judgeCriterionId ∈ earlier.map (·.judgeCriterionId))
    ⟨.duplicateReference, "duplicate policy criterion"⟩
  rejectIf (reference.judgePolicyId ≠ policy.judgePolicyId)
    ⟨.bindingMismatch, "criterion reference policy mismatch"⟩
  let criterion ← found (lookup (·.judgeCriterionId) criteria reference.judgeCriterionId)
    ⟨.orphanReference, "unknown policy criterion"⟩
  validateJudgeCriterion criterion
  rejectIf (reference.criterionVersion ≠ criterion.criterionVersion)
    ⟨.version, "criterion reference version mismatch"⟩
  scope criterion.tenantId criterion.organizationId policy.tenantId policy.organizationId
  requireClassification policy.classification [criterion.classification]
  rejectIf (reference.createdAt < policy.createdAt ∨ criterion.createdAt < policy.createdAt)
    ⟨.timestamp, "criterion metadata precedes policy"⟩

/-- The criterion references from a place on. -/
def validateCriterionReferences (policy : JudgePolicy) (criteria : List JudgeCriterion) :
    List JudgePolicyCriterionReference → List JudgePolicyCriterionReference →
      Except JudgeError Unit
  | _, [] => .ok ()
  | earlier, reference :: rest => do
      validateCriterionReference policy criteria earlier reference
      validateCriterionReferences policy criteria (earlier ++ [reference]) rest

/-- A policy must own exactly its criteria, in sequence. -/
def validateJudgePolicy (policy : JudgePolicy) (criteria : List JudgeCriterion) :
    Except JudgeError Unit := do
  validateCriterionReferences policy criteria [] policy.orderedCriterionReferences
  rejectIf (¬ (criteria.map (·.judgeCriterionId)).Nodup)
    ⟨.duplicateReference, "duplicate criterion contract"⟩
  rejectIf (∃ criterion ∈ criteria, criterion.judgeCriterionId ∉
      policy.orderedCriterionReferences.map (·.judgeCriterionId))
    ⟨.orphanReference, "criterion is not owned by policy"⟩

/-! ## Inputs -/

/-- The lineage of an input is not that of its record. -/
def lineageDiffers (reference : JudgeInputReference) (record : JudgedAggregationRecord) : Prop :=
  reference.lineageId ≠ record.lineageReference.rootLineageId ∨
  reference.lineageDigestReference ≠ record.lineageReference.rootLineageDigestReference

instance (reference : JudgeInputReference) (record : JudgedAggregationRecord) :
    Decidable (lineageDiffers reference record) :=
  inferInstanceAs (Decidable (_ ∨ _))

/-- An input does not repeat its record. -/
def inputDiffers (reference : JudgeInputReference) (record : JudgedAggregationRecord)
    (aggregation : JudgedAggregationBundle) : Prop :=
  reference.metricAggregationRecordId ≠ record.metricAggregationRecordId ∨
  reference.metricAggregationRecordVersion ≠ record.recordVersion ∨
  reference.metricAggregationBundleId ≠ aggregation.metricAggregationBundleId ∨
  reference.aggregationPolicyId ≠ record.aggregationPolicyId ∨
  reference.aggregationMethod ≠ record.aggregationMethod ∨
  lineageDiffers reference record ∨
  reference.policyRevision ≠ record.policyRevision ∨
  reference.authorizationRevision ≠ record.authorizationRevision ∨
  reference.registryRevision ≠ record.registryRevision

instance (reference : JudgeInputReference) (record : JudgedAggregationRecord)
    (aggregation : JudgedAggregationBundle) :
    Decidable (inputDiffers reference record aggregation) :=
  inferInstanceAs (Decidable (_ ∨ _ ∨ _ ∨ _ ∨ _ ∨ _ ∨ _ ∨ _ ∨ _))

/-- An input must repeat its record, under its policy. -/
def validateJudgeInputReference (reference : JudgeInputReference) (policy : JudgePolicy)
    (record : JudgedAggregationRecord) (aggregation : JudgedAggregationBundle) :
    Except JudgeError Unit := do
  rejectIf (reference.judgePolicyId ≠ policy.judgePolicyId)
    ⟨.bindingMismatch, "input policy substitution"⟩
  rejectIf (reference.judgePolicyVersion ≠ policy.judgePolicyVersion)
    ⟨.version, "input policy version mismatch"⟩
  scope reference.tenantId reference.organizationId policy.tenantId policy.organizationId
  scope reference.tenantId reference.organizationId record.tenantId record.organizationId
  rejectIf (inputDiffers reference record aggregation ∧ lineageDiffers reference record)
    ⟨.lineage, "input lineage substitution"⟩
  rejectIf (inputDiffers reference record aggregation)
    ⟨.inputReference, "input aggregation binding mismatch"⟩
  rejectIf (record.metricAggregationRecordId ∉
      aggregation.aggregationRecords.map (·.metricAggregationRecordId))
    ⟨.orphanReference, "aggregation record is not in bundle"⟩
  requireClassification reference.classification [record.classification]
  rejectIf (reference.createdAt < record.recordedAt)
    ⟨.timestamp, "input reference precedes aggregation record"⟩

/-! ## Assessments -/

/-- An assessment must be of its policy, criterion and input, and not before them. -/
def validateJudgeAssessment (assessment : JudgeAssessment) (policy : JudgePolicy)
    (criterion : JudgeCriterion) (input : JudgeInputReference) : Except JudgeError Unit := do
  rejectIf (assessment.judgePolicyId ≠ policy.judgePolicyId ∨
      assessment.judgeCriterionId ≠ criterion.judgeCriterionId ∨
      assessment.judgeInputReferenceId ≠ input.judgeInputReferenceId ∨
      assessment.metricAggregationRecordId ≠ input.metricAggregationRecordId)
    ⟨.assessment, "assessment binding mismatch"⟩
  scope assessment.tenantId assessment.organizationId policy.tenantId policy.organizationId
  rejectIf (assessment.lineageId ≠ input.lineageId ∨
      assessment.lineageDigestReference ≠ input.lineageDigestReference)
    ⟨.lineage, "assessment lineage mismatch"⟩
  rejectIf (assessment.policyRevision ≠ policy.policyRevision ∨
      assessment.authorizationRevision ≠ input.authorizationRevision ∨
      assessment.registryRevision ≠ policy.registryRevision)
    ⟨.version, "assessment revision mismatch"⟩
  requireClassification assessment.classification
    [policy.classification, criterion.classification, input.classification]
  rejectIf (∃ source ∈ [policy.createdAt, criterion.createdAt, input.createdAt],
      assessment.assessedAt < source)
    ⟨.timestamp, "assessment precedes source metadata"⟩

/-- The key inputs are ordered by. -/
def JudgeInputReference.key (reference : JudgeInputReference) : UUID ×ₗ UUID ×ₗ UUID :=
  toLex (reference.judgePolicyId,
    toLex (reference.metricAggregationRecordId, reference.judgeInputReferenceId))

/-- One input of an assessment bundle, after those before it. -/
def validateBundleInput (bundle : JudgeAssessmentBundle) (policy : JudgePolicy)
    (aggregation : JudgedAggregationBundle) (earlier : List JudgeInputReference)
    (reference : JudgeInputReference) : Except JudgeError Unit := do
  rejectIf (∃ previous ∈ earlier.getLast?, reference.key ≤ previous.key)
    ⟨.assessmentBundle, "input references are not canonical"⟩
  rejectIf (reference.judgeInputReferenceId ∈ earlier.map (·.judgeInputReferenceId) ∨
      (reference.judgePolicyId, reference.metricAggregationRecordId) ∈
        earlier.map fun item => (item.judgePolicyId, item.metricAggregationRecordId))
    ⟨.duplicateReference, "duplicate judge input reference"⟩
  let record ← found (lookup (·.metricAggregationRecordId) aggregation.aggregationRecords
      reference.metricAggregationRecordId)
    ⟨.orphanReference, "unknown aggregation record"⟩
  validateJudgeInputReference reference policy record aggregation
  rejectIf (bundle.authorizationRevision ≠ reference.authorizationRevision)
    ⟨.version, "assessment bundle authorization revision mismatch"⟩
  rejectIf (reference.lineageId ≠ bundle.rootLineageId ∨
      reference.lineageDigestReference ≠ bundle.rootLineageDigestReference)
    ⟨.lineage, "assessment bundle lineage mismatch"⟩

/-- The inputs of an assessment bundle from a place on. -/
def validateBundleInputs (bundle : JudgeAssessmentBundle) (policy : JudgePolicy)
    (aggregation : JudgedAggregationBundle) :
    List JudgeInputReference → List JudgeInputReference → Except JudgeError Unit
  | _, [] => .ok ()
  | earlier, reference :: rest => do
      validateBundleInput bundle policy aggregation earlier reference
      validateBundleInputs bundle policy aggregation (earlier ++ [reference]) rest

/-- A criterion must expect what the record of an input holds. -/
def validateExpectation (aggregation : JudgedAggregationBundle) (criterion : JudgeCriterion)
    (reference : JudgeInputReference) : Except JudgeError Unit := do
  let record ← found (lookup (·.metricAggregationRecordId) aggregation.aggregationRecords
      reference.metricAggregationRecordId)
    ⟨.orphanReference, "unknown aggregation record"⟩
  rejectIf (criterion.expectedAggregationMethod ≠ record.aggregationMethod ∨
      criterion.expectedMetricValueType ≠ record.outputValueType)
    ⟨.criterion, "criterion aggregation contract mismatch"⟩

/-- The place of a criterion in its policy. -/
def JudgePolicy.sequenceOf (policy : JudgePolicy) (criterionId : UUID) : Option Nat :=
  (lookup (·.judgeCriterionId) policy.orderedCriterionReferences criterionId).map
    (·.criterionSequence)

/-- The key assessments are ordered by. -/
def JudgePolicy.assessmentKey (policy : JudgePolicy) (assessment : JudgeAssessment) :
    Nat ×ₗ UUID ×ₗ UUID :=
  toLex ((policy.sequenceOf assessment.judgeCriterionId).getD 0,
    toLex (assessment.judgeInputReferenceId, assessment.judgeAssessmentId))

/-- One assessment of a bundle, after those before it. -/
def validateBundleAssessment (bundle : JudgeAssessmentBundle) (policy : JudgePolicy)
    (criteria : List JudgeCriterion) (earlier : List JudgeAssessment)
    (assessment : JudgeAssessment) : Except JudgeError Unit := do
  rejectIf (policy.sequenceOf assessment.judgeCriterionId = none)
    ⟨.orphanReference, "unknown assessment criterion"⟩
  let criterion ← found (lookup (·.judgeCriterionId) criteria assessment.judgeCriterionId)
    ⟨.orphanReference, "unknown assessment criterion"⟩
  let reference ← found (lookup (·.judgeInputReferenceId) bundle.judgeInputReferences
      assessment.judgeInputReferenceId)
    ⟨.orphanReference, "unknown assessment input"⟩
  rejectIf (∃ previous ∈ earlier.getLast?,
      policy.assessmentKey assessment ≤ policy.assessmentKey previous)
    ⟨.assessmentBundle, "assessments are not in policy-owned order"⟩
  rejectIf (assessment.judgeAssessmentId ∈ earlier.map (·.judgeAssessmentId))
    ⟨.duplicateReference, "duplicate assessment id"⟩
  rejectIf ((assessment.judgeCriterionId, assessment.judgeInputReferenceId) ∈
      earlier.map fun item => (item.judgeCriterionId, item.judgeInputReferenceId))
    ⟨.duplicateReference, "duplicate criterion and input assessment"⟩
  validateJudgeAssessment assessment policy criterion reference
  rejectIf (assessment.assessedAt > bundle.createdAt)
    ⟨.timestamp, "assessment follows assessment bundle"⟩

/-- The assessments of a bundle from a place on. -/
def validateBundleAssessments (bundle : JudgeAssessmentBundle) (policy : JudgePolicy)
    (criteria : List JudgeCriterion) :
    List JudgeAssessment → List JudgeAssessment → Except JudgeError Unit
  | _, [] => .ok ()
  | earlier, assessment :: rest => do
      validateBundleAssessment bundle policy criteria earlier assessment
      validateBundleAssessments bundle policy criteria (earlier ++ [assessment]) rest

/-- An assessment bundle must be of its policy and assess every required criterion on every
input. -/
def validateJudgeAssessmentBundle (bundle : JudgeAssessmentBundle) (policy : JudgePolicy)
    (criteria : List JudgeCriterion) (aggregation : JudgedAggregationBundle) :
    Except JudgeError Unit := do
  rejectIf (bundle.judgePolicyId ≠ policy.judgePolicyId)
    ⟨.bindingMismatch, "assessment bundle policy mismatch"⟩
  rejectIf (bundle.judgePolicyVersion ≠ policy.judgePolicyVersion)
    ⟨.version, "assessment bundle policy version mismatch"⟩
  scope bundle.tenantId bundle.organizationId policy.tenantId policy.organizationId
  rejectIf (bundle.policyRevision ≠ policy.policyRevision ∨
      bundle.registryRevision ≠ policy.registryRevision)
    ⟨.version, "assessment bundle policy revision mismatch"⟩
  validateJudgePolicy policy criteria
  validateBundleInputs bundle policy aggregation [] bundle.judgeInputReferences
  checkEach (fun criterion =>
    checkEach (validateExpectation aggregation criterion) bundle.judgeInputReferences) criteria
  validateBundleAssessments bundle policy criteria [] bundle.assessments
  rejectIf (∃ reference ∈ policy.orderedCriterionReferences, reference.required ∧
      ∃ input ∈ bundle.judgeInputReferences,
        (reference.judgeCriterionId, input.judgeInputReferenceId) ∉
          bundle.assessments.map fun item => (item.judgeCriterionId, item.judgeInputReferenceId))
    ⟨.assessmentBundle, "required assessment is missing"⟩
  requireClassification bundle.classification
    (policy.classification :: criteria.map (·.classification) ++
      bundle.judgeInputReferences.map (·.classification) ++
      bundle.assessments.map (·.classification))

/-! ## Decisions -/

/-- A decision must be of each of its inputs. -/
def validateDecisionInput (decision : JudgeDecisionRecord) (policy : JudgePolicy)
    (reference : JudgeInputReference) : Except JudgeError Unit := do
  rejectIf (decision.lineageId ≠ reference.lineageId ∨
      decision.lineageDigestReference ≠ reference.lineageDigestReference)
    ⟨.lineage, "decision lineage mismatch"⟩
  requireClassification decision.classification [policy.classification, reference.classification]
  rejectIf (decision.recordedAt < reference.createdAt)
    ⟨.timestamp, "decision precedes input reference"⟩
  rejectIf (decision.authorizationRevision ≠ reference.authorizationRevision)
    ⟨.version, "decision authorization revision mismatch"⟩

/-- A recorded decision rests on an assessment bundle, and no other does. -/
def validateDecisionGround (decision : JudgeDecisionRecord)
    (assessmentBundle : Option JudgeAssessmentBundle) : Except JudgeError Unit :=
  if decision.decisionStatus = .recorded then
    match assessmentBundle with
    | none => .error ⟨.decision, "recorded decision requires assessment bundle"⟩
    | some bundle => do
        rejectIf (decision.judgeAssessmentBundleId ≠ some bundle.judgeAssessmentBundleId)
          ⟨.bindingMismatch, "decision assessment bundle mismatch"⟩
        requireClassification decision.classification [bundle.classification]
        rejectIf (decision.recordedAt < bundle.createdAt)
          ⟨.timestamp, "decision precedes assessment bundle"⟩
  else
    rejectIf (assessmentBundle ≠ none)
      ⟨.decision, "non-recorded decision must not receive assessment bundle"⟩

/-- A decision must be of its policy, its inputs and the assessments it rests on. -/
def validateJudgeDecisionRecord (decision : JudgeDecisionRecord) (policy : JudgePolicy)
    (inputReferences : List JudgeInputReference)
    (assessmentBundle : Option JudgeAssessmentBundle) : Except JudgeError Unit := do
  rejectIf (decision.judgePolicyId ≠ policy.judgePolicyId)
    ⟨.bindingMismatch, "decision policy mismatch"⟩
  rejectIf (decision.judgePolicyVersion ≠ policy.judgePolicyVersion)
    ⟨.version, "decision policy version mismatch"⟩
  scope decision.tenantId decision.organizationId policy.tenantId policy.organizationId
  rejectIf (decision.policyRevision ≠ policy.policyRevision ∨
      decision.registryRevision ≠ policy.registryRevision)
    ⟨.version, "decision policy revision mismatch"⟩
  rejectIf (decision.judgeInputReferenceIds ≠ inputReferences.map (·.judgeInputReferenceId))
    ⟨.bindingMismatch, "decision input references mismatch"⟩
  checkEach (validateDecisionInput decision policy) inputReferences
  validateDecisionGround decision assessmentBundle

end PolicyOS.Judge
