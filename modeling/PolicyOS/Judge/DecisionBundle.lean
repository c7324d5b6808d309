import PolicyOS.Judge.Validation

/-!
# Judge decision bundles

A bundle holds policies, what they judged and the decisions made of it, each collection in
its order. Its validation walks the collections one by one, then looks at the time of every
part, then at the counts of the audit. The time of a part is its `created_at`, or else its
`recorded_at`; a part that has neither raises an `AttributeError`.
-/

namespace PolicyOS.Judge

open Foundation Metrics

/-- What the validation of a bundle raises. -/
inductive BundleFailure
  | judge (error : JudgeError)
  /-- A part has no attribute of that name. -/
  | attributeError (name : String)
  deriving DecidableEq, Repr

/-- A Judge error raised while a bundle is validated. -/
def judged {Value : Type} (result : Except JudgeError Value) : Except BundleFailure Value :=
  result.mapError .judge

/-- Passing a Judge error on changes no accepted value. -/
@[simp] theorem judged_eq_ok_iff {Value : Type} {result : Except JudgeError Value}
    {value : Value} : judged result = .ok value ↔ result = .ok value := by
  cases result <;> simp [judged, Except.mapError]

/-! ## Collections -/

/-- Values must be listed once each. -/
def requireUnique {Value : Type} [DecidableEq Value] (values : List Value) (name : String) :
    Except JudgeError Unit :=
  rejectIf (¬ values.Nodup) ⟨.duplicateDecisionBundleReference, "duplicate " ++ name⟩

/-- Keys must be in order. -/
def requireOrder {Key : Type} [LinearOrder Key] (keys : List Key) (name : String) :
    Except JudgeError Unit :=
  rejectIf (keys ≠ sortedBy id keys) ⟨.decisionBundleOrdering, name ++ " are not canonical"⟩

/-- A part must be in the scope of its bundle. -/
def requireScope (actualTenant actualOrganization tenantId organizationId : UUID)
    (name : String) : Except JudgeError Unit :=
  rejectIf (actualTenant ≠ tenantId ∨ actualOrganization ≠ organizationId)
    ⟨.decisionBundle, name ++ " scope mismatch"⟩

/-! ## References of a bundle -/

/-- A review must be of its decisions, as they are bound. -/
def validateReviewDecision (requirement : JudgeReviewRequirement) (policy : JudgePolicy)
    (decisions : List JudgeDecisionRecord) (decisionId : UUID) : Except JudgeError Unit := do
  let decision ← found (lookup (·.judgeDecisionRecordId) decisions decisionId)
    ⟨.orphanDecisionBundleReference, "unknown review decision"⟩
  rejectIf (decision.judgePolicyId ≠ policy.judgePolicyId)
    ⟨.reviewRequirement, "review policy identity mismatch"⟩
  requireScope requirement.tenantId requirement.organizationId decision.tenantId
    decision.organizationId "review requirement"
  requireClassification requirement.classification [decision.classification]
  rejectIf (requirement.createdAt < decision.recordedAt)
    ⟨.reviewRequirement, "review precedes decision"⟩
  rejectIf (requirement.policyRevision ≠ decision.policyRevision ∨
      requirement.authorizationRevision ≠ decision.authorizationRevision ∨
      requirement.registryRevision ≠ decision.registryRevision)
    ⟨.reviewRequirement, "review revision mismatch"⟩
  rejectIf (requirement.lineageReference.rootLineageId ≠ decision.lineageId ∨
      requirement.lineageReference.rootLineageDigestReference ≠ decision.lineageDigestReference)
    ⟨.reviewRequirement, "review lineage mismatch"⟩
  rejectIf (decisionId ∉ requirement.lineageReference.judgeDecisionRecordIds)
    ⟨.reviewRequirement, "review decision lineage mismatch"⟩
  rejectIf (decisionId ∉ requirement.provenanceReference.judgeDecisionRecordIds)
    ⟨.reviewRequirement, "review decision provenance mismatch"⟩

/-- A review must be of known decisions of one policy. -/
def validateJudgeReviewRequirement (requirement : JudgeReviewRequirement) (policy : JudgePolicy)
    (decisions : List JudgeDecisionRecord) : Except JudgeError Unit := do
  rejectIf (¬ (decisions.map (·.judgeDecisionRecordId)).Nodup)
    ⟨.duplicateDecisionBundleReference, "duplicate review decision"⟩
  rejectIf (requirement.judgeDecisionRecordIds ≠ sortedBy id requirement.judgeDecisionRecordIds)
    ⟨.reviewRequirement, "review decision references are not canonical"⟩
  checkEach (validateReviewDecision requirement policy decisions)
    requirement.judgeDecisionRecordIds
  rejectIf (¬ reviewLifecycle requirement.reviewStatus requirement.reviewRequestReference
      requirement.reviewResultReference requirement.waiverReference)
    ⟨.reviewRequirement, "review lifecycle mismatch"⟩

/-- A group of identifiers is out of order, or lists one twice. -/
def misordered (values : List UUID) : Prop := values ≠ sortedBy id values ∨ ¬ values.Nodup

instance (values : List UUID) : Decidable (misordered values) :=
  inferInstanceAs (Decidable (_ ∨ _))

/-- A lineage must be of known inputs and decisions of one policy, under the root. -/
def validateJudgeDecisionLineageReference (reference : JudgeDecisionLineageReference)
    (bundleId : UUID) (policy : JudgePolicy) (inputReferences : List JudgeInputReference)
    (decisions : List JudgeDecisionRecord) (rootLineageId : UUID)
    (rootLineageDigestReference : String) : Except JudgeError Unit := do
  rejectIf (bundleId ∈ reference.parentDecisionBundleIds)
    ⟨.decisionLineageReference, "decision bundle is its own parent"⟩
  rejectIf (∃ values ∈ [reference.judgeInputReferenceIds, reference.judgeDecisionRecordIds,
      reference.judgeAssessmentBundleIds, reference.parentDecisionBundleIds], misordered values)
    ⟨.decisionLineageReference, "lineage references are not canonical"⟩
  checkEach (fun inputId => do
    let item ← found (lookup (·.judgeInputReferenceId) inputReferences inputId)
      ⟨.orphanDecisionBundleReference, "unknown lineage input"⟩
    rejectIf (item.judgePolicyId ≠ policy.judgePolicyId)
      ⟨.decisionLineageReference, "lineage policy identity mismatch"⟩
    rejectIf (item.judgePolicyVersion ≠ policy.judgePolicyVersion)
      ⟨.decisionLineageReference, "lineage policy version mismatch"⟩)
    reference.judgeInputReferenceIds
  rejectIf (reference.judgeInputReferenceIds = [])
    ⟨.decisionLineageReference, "lineage aggregation references are empty"⟩
  checkEach (fun decisionId => do
    let item ← found (lookup (·.judgeDecisionRecordId) decisions decisionId)
      ⟨.orphanDecisionBundleReference, "unknown lineage decision"⟩
    rejectIf (item.judgePolicyId ≠ policy.judgePolicyId ∨
        item.judgePolicyVersion ≠ policy.judgePolicyVersion)
      ⟨.decisionLineageReference, "lineage decision policy mismatch"⟩)
    reference.judgeDecisionRecordIds
  rejectIf (reference.rootLineageId ≠ rootLineageId ∨
      reference.rootLineageDigestReference ≠ rootLineageDigestReference)
    ⟨.decisionLineageReference, "lineage root mismatch"⟩

/-- A provenance must be of one policy, and of known inputs and decisions of it. -/
def validateJudgeDecisionProvenanceReference (reference : JudgeDecisionProvenanceReference)
    (policy : JudgePolicy) (criteria : List JudgeCriterion)
    (inputReferences : List JudgeInputReference) (decisions : List JudgeDecisionRecord) :
    Except JudgeError Unit := do
  rejectIf (∃ values ∈ [reference.judgePolicyIds, reference.judgeAssessmentBundleIds,
      reference.judgeInputReferenceIds, reference.judgeDecisionRecordIds], misordered values)
    ⟨.decisionProvenanceReference, "provenance references are not canonical"⟩
  rejectIf (reference.judgePolicyIds ≠ [policy.judgePolicyId])
    ⟨.decisionProvenanceReference, "provenance policy identity mismatch"⟩
  rejectIf (∃ owned ∈ policy.orderedCriterionReferences, owned.judgeCriterionId ∉
      criteria.map (·.judgeCriterionId))
    ⟨.orphanDecisionBundleReference, "unknown provenance criterion"⟩
  checkEach (fun inputId => do
    let item ← found (lookup (·.judgeInputReferenceId) inputReferences inputId)
      ⟨.orphanDecisionBundleReference, "unknown provenance input"⟩
    rejectIf (item.judgePolicyId ≠ policy.judgePolicyId ∨
        item.judgePolicyVersion ≠ policy.judgePolicyVersion)
      ⟨.decisionProvenanceReference, "provenance input policy mismatch"⟩)
    reference.judgeInputReferenceIds
  checkEach (fun decisionId => do
    let item ← found (lookup (·.judgeDecisionRecordId) decisions decisionId)
      ⟨.orphanDecisionBundleReference, "unknown provenance decision"⟩
    rejectIf (item.judgePolicyId ≠ policy.judgePolicyId ∨
        item.judgePolicyVersion ≠ policy.judgePolicyVersion)
      ⟨.decisionProvenanceReference, "provenance decision policy mismatch"⟩)
    reference.judgeDecisionRecordIds
  rejectIf (reference.policyRevision ≠ policy.policyRevision ∨
      reference.registryRevision ≠ policy.registryRevision)
    ⟨.decisionProvenanceReference, "provenance revision mismatch"⟩

/-- No count of a part is more than the count of the whole. -/
def validateJudgeDecisionAuditMetadata (metadata : JudgeDecisionAuditMetadata) :
    Except JudgeError Unit := do
  checkEach (fun (name, count) =>
      rejectIf (count > metadata.reviewRequirementCount)
        ⟨.decisionAuditMetadata, name ++ " exceeds review_requirement_count"⟩)
    [("required_review_count", metadata.requiredReviewCount),
      ("requested_review_count", metadata.requestedReviewCount),
      ("completed_review_count", metadata.completedReviewCount),
      ("waived_review_count", metadata.waivedReviewCount),
      ("cancelled_review_count", metadata.cancelledReviewCount)]
  rejectIf (metadata.invalidatedDecisionCount > metadata.decisionRecordCount)
    ⟨.decisionAuditMetadata, "invalidated_decision_count exceeds decision_record_count"⟩

namespace JudgeDecisionBundle

variable (bundle : JudgeDecisionBundle)

/-! ## The parts of the validation -/

/-- Every collection but the assessments must be in its order. -/
def validateOrdering : Except JudgeError Unit := do
  requireOrder (bundle.policies.map (·.judgePolicyId)) "policies"
  requireOrder (bundle.criteria.map fun item =>
    toLex (item.criterionKey, item.judgeCriterionId)) "criteria"
  requireOrder (bundle.policyCriterionReferences.map fun item =>
    toLex (item.judgePolicyId, item.criterionSequence)) "policy criterion references"
  requireOrder (bundle.inputReferences.map (·.key)) "input references"
  requireOrder (bundle.assessmentBundles.map fun item =>
    toLex (item.judgePolicyId, item.judgeAssessmentBundleId)) "assessment bundles"
  requireOrder (bundle.decisionRecords.map fun item =>
    toLex (item.recordedAt, item.judgeDecisionRecordId)) "decision records"
  requireOrder (bundle.reviewRequirements.map fun item =>
    toLex (item.judgeDecisionRecordIds.head item.decided.1,
      toLex (item.reviewType.value, item.judgeReviewRequirementId))) "review requirements"
  requireOrder (bundle.lineageReferences.map (·.judgeDecisionLineageReferenceId))
    "lineage references"
  requireOrder (bundle.provenanceReferences.map (·.judgeDecisionProvenanceReferenceId))
    "provenance references"

/-- No collection may hold an identifier twice. -/
def validateUniqueness : Except JudgeError Unit := do
  requireUnique (bundle.policies.map (·.judgePolicyId)) "policy"
  requireUnique (bundle.criteria.map (·.judgeCriterionId)) "criterion"
  requireUnique (bundle.policyCriterionReferences.map (·.policyCriterionReferenceId))
    "policy criterion reference"
  requireUnique (bundle.inputReferences.map (·.judgeInputReferenceId)) "input"
  requireUnique (bundle.assessments.map (·.judgeAssessmentId)) "assessment"
  requireUnique (bundle.assessmentBundles.map (·.judgeAssessmentBundleId)) "assessment bundle"
  requireUnique (bundle.decisionRecords.map (·.judgeDecisionRecordId)) "decision"
  requireUnique (bundle.reviewRequirements.map (·.judgeReviewRequirementId)) "review requirement"
  requireUnique (bundle.lineageReferences.map (·.judgeDecisionLineageReferenceId))
    "lineage reference"
  requireUnique (bundle.provenanceReferences.map (·.judgeDecisionProvenanceReferenceId))
    "provenance reference"

/-- A criterion must be of the bundle. -/
def validateCriterion (item : JudgeCriterion) : Except JudgeError Unit := do
  validateJudgeCriterion item
  requireScope item.tenantId item.organizationId bundle.tenantId bundle.organizationId "criterion"
  requireClassification bundle.classification [item.classification]

/-- A policy must be of the bundle, with its criteria and their references. -/
def validatePolicy (policy : JudgePolicy) : Except JudgeError Unit := do
  requireScope policy.tenantId policy.organizationId bundle.tenantId bundle.organizationId "policy"
  requireClassification bundle.classification [policy.classification]
  validateJudgePolicy policy (policy.orderedCriterionReferences.filterMap fun reference =>
    lookup (·.judgeCriterionId) bundle.criteria reference.judgeCriterionId)
  rejectIf (policy.orderedCriterionReferences ≠
      bundle.policyCriterionReferences.filter (·.judgePolicyId = policy.judgePolicyId))
    ⟨.orphanDecisionBundleReference, "policy criterion reference mismatch"⟩

/-- An input must be of a policy and of the root lineage. -/
def validateInput (item : JudgeInputReference) : Except JudgeError Unit := do
  let policy ← found (lookup (·.judgePolicyId) bundle.policies item.judgePolicyId)
    ⟨.orphanDecisionBundleReference, "unknown input policy"⟩
  rejectIf (item.judgePolicyVersion ≠ policy.judgePolicyVersion)
    ⟨.decisionBundle, "input policy version mismatch"⟩
  requireScope item.tenantId item.organizationId bundle.tenantId bundle.organizationId "input"
  requireClassification bundle.classification [item.classification]
  rejectIf (item.lineageId ≠ bundle.rootLineageId ∨
      item.lineageDigestReference ≠ bundle.rootLineageDigestReference)
    ⟨.decisionBundle, "input root lineage mismatch"⟩

/-- An assessment must be of what the bundle holds. -/
def validateAssessment (item : JudgeAssessment) : Except JudgeError Unit := do
  let unknown : JudgeError := ⟨.orphanDecisionBundleReference, "unknown assessment reference"⟩
  let policy ← found (lookup (·.judgePolicyId) bundle.policies item.judgePolicyId) unknown
  let criterion ← found (lookup (·.judgeCriterionId) bundle.criteria item.judgeCriterionId) unknown
  let input ← found
    (lookup (·.judgeInputReferenceId) bundle.inputReferences item.judgeInputReferenceId) unknown
  validateJudgeAssessment item policy criterion input
  requireClassification bundle.classification [item.classification]

/-- The assessments of an assessment bundle must be in the bundle, and not follow it. -/
def validateAssessmentBundle (item : JudgeAssessmentBundle) : Except JudgeError Unit := do
  rejectIf (lookup (·.judgePolicyId) bundle.policies item.judgePolicyId = none)
    ⟨.orphanDecisionBundleReference, "unknown assessment bundle policy"⟩
  requireScope item.tenantId item.organizationId bundle.tenantId bundle.organizationId
    "assessment bundle"
  requireClassification bundle.classification [item.classification]
  rejectIf (∃ assessment ∈ item.assessments,
      assessment ∉ bundle.assessments ∨ assessment.assessedAt > item.createdAt)
    ⟨.orphanDecisionBundleReference, "assessment bundle assessment mismatch"⟩

/-- A decision must rest on what the bundle holds. -/
def validateDecision (item : JudgeDecisionRecord) : Except JudgeError Unit := do
  let policy ← found (lookup (·.judgePolicyId) bundle.policies item.judgePolicyId)
    ⟨.orphanDecisionBundleReference, "unknown decision policy"⟩
  let inputs := item.judgeInputReferenceIds.filterMap
    (lookup (·.judgeInputReferenceId) bundle.inputReferences)
  rejectIf (inputs.length ≠ item.judgeInputReferenceIds.length)
    ⟨.orphanDecisionBundleReference, "unknown decision input"⟩
  let ground := item.judgeAssessmentBundleId.bind
    (lookup (·.judgeAssessmentBundleId) bundle.assessmentBundles)
  rejectIf (item.judgeAssessmentBundleId ≠ none ∧ ground = none)
    ⟨.orphanDecisionBundleReference, "unknown decision assessment bundle"⟩
  validateJudgeDecisionRecord item policy inputs ground
  requireClassification bundle.classification [item.classification]

/-- A review must be of decisions of the bundle. -/
def validateReview (item : JudgeReviewRequirement) : Except JudgeError Unit := do
  rejectIf (item.judgeDecisionBundleId ≠ bundle.judgeDecisionBundleId)
    ⟨.reviewRequirement, "review bundle identity mismatch"⟩
  let referenced :=
    bundle.decisionRecords.filter (·.judgeDecisionRecordId ∈ item.judgeDecisionRecordIds)
  let first ← found referenced.head?
    ⟨.orphanDecisionBundleReference, "review has no known decision"⟩
  let policy ← found (lookup (·.judgePolicyId) bundle.policies first.judgePolicyId)
    ⟨.orphanDecisionBundleReference, "unknown review policy"⟩
  validateJudgeReviewRequirement item policy referenced
  requireClassification bundle.classification [item.classification]

/-- The lineage and provenance references that touch a policy must be of it. -/
def validatePolicyReferences (policy : JudgePolicy) : Except JudgeError Unit := do
  let inputs := bundle.inputReferences.filter (·.judgePolicyId = policy.judgePolicyId)
  let decisions := bundle.decisionRecords.filter (·.judgePolicyId = policy.judgePolicyId)
  checkEach (fun item : JudgeDecisionLineageReference =>
    if ∃ decision ∈ decisions, decision.judgeDecisionRecordId ∈ item.judgeDecisionRecordIds then
      validateJudgeDecisionLineageReference item bundle.judgeDecisionBundleId policy inputs
        decisions bundle.rootLineageId bundle.rootLineageDigestReference
    else .ok ()) bundle.lineageReferences
  checkEach (fun item : JudgeDecisionProvenanceReference =>
    if policy.judgePolicyId ∈ item.judgePolicyIds then
      validateJudgeDecisionProvenanceReference item policy bundle.criteria inputs decisions
    else .ok ()) bundle.provenanceReferences

/-- Everything that is checked before the times of the parts. -/
def validateReferences : Except JudgeError Unit := do
  bundle.validateOrdering
  bundle.validateUniqueness
  checkEach bundle.validateCriterion bundle.criteria
  checkEach bundle.validatePolicy bundle.policies
  requireUnique (bundle.inputReferences.map fun item =>
    (item.judgePolicyId, item.metricAggregationRecordId)) "policy aggregation input"
  checkEach bundle.validateInput bundle.inputReferences
  checkEach bundle.validateAssessment bundle.assessments
  checkEach bundle.validateAssessmentBundle bundle.assessmentBundles
  checkEach bundle.validateDecision bundle.decisionRecords
  checkEach bundle.validateReview bundle.reviewRequirements
  checkEach bundle.validatePolicyReferences bundle.policies

end JudgeDecisionBundle

/-! ## Times -/

/-- The times a part of a bundle may have, as attributes of it. -/
structure NestedMetadata where
  createdAt : Option DateTime := none
  recordedAt : Option DateTime := none
  deriving DecidableEq

namespace JudgeDecisionBundle

variable (bundle : JudgeDecisionBundle)

/-- The parts whose times are looked at, in order. -/
def nested : List NestedMetadata :=
  bundle.policies.map (fun item => { createdAt := some item.createdAt }) ++
    bundle.criteria.map (fun item => { createdAt := some item.createdAt }) ++
    bundle.inputReferences.map (fun item => { createdAt := some item.createdAt }) ++
    bundle.assessments.map (fun _ => ⟨none, none⟩) ++
    bundle.assessmentBundles.map (fun item => { createdAt := some item.createdAt }) ++
    bundle.decisionRecords.map (fun item => { recordedAt := some item.recordedAt }) ++
    bundle.reviewRequirements.map (fun item => { createdAt := some item.createdAt })

/-- A part must not follow its bundle. -/
def validateNested (item : NestedMetadata) : Except BundleFailure Unit :=
  let follows : BundleFailure := .judge ⟨.decisionBundle, "nested metadata follows bundle"⟩
  match item.createdAt, item.recordedAt with
  | some createdAt, _ => rejectIf (createdAt > bundle.createdAt) follows
  | none, some recordedAt => rejectIf (recordedAt > bundle.createdAt) follows
  | none, none => .error (.attributeError "recorded_at")

/-! ## Audit -/

/-- The reviews of a status. -/
def reviewsOf (status : JudgeReviewStatus) : Nat :=
  bundle.reviewRequirements.countP (·.reviewStatus = status)

/-- The audit of a bundle must count what it holds. -/
def validateAudit : Except JudgeError Unit :=
  match bundle.auditMetadata with
  | none => .ok ()
  | some audit => do
      validateJudgeDecisionAuditMetadata audit
      rejectIf (audit.judgeDecisionBundleId ≠ bundle.judgeDecisionBundleId ∨
          audit.bundleVersion ≠ bundle.bundleVersion ∨
          audit.policyCount ≠ bundle.policies.length ∨
          audit.criterionCount ≠ bundle.criteria.length ∨
          audit.policyCriterionReferenceCount ≠ bundle.policyCriterionReferences.length ∨
          audit.inputReferenceCount ≠ bundle.inputReferences.length ∨
          audit.assessmentCount ≠ bundle.assessments.length ∨
          audit.assessmentBundleCount ≠ bundle.assessmentBundles.length ∨
          audit.decisionRecordCount ≠ bundle.decisionRecords.length ∨
          audit.reviewRequirementCount ≠ bundle.reviewRequirements.length ∨
          audit.tenantId ≠ bundle.tenantId ∨
          audit.organizationId ≠ bundle.organizationId ∨
          audit.classification ≠ bundle.classification ∨
          audit.createdAt ≠ bundle.createdAt)
        ⟨.decisionAuditMetadata, "audit bundle metadata mismatch"⟩
      rejectIf (audit.invalidatedDecisionCount ≠
            bundle.decisionRecords.countP (·.decisionStatus = .invalidated) ∨
          audit.requiredReviewCount ≠ bundle.reviewsOf .required ∨
          audit.requestedReviewCount ≠ bundle.reviewsOf .requested ∨
          audit.completedReviewCount ≠ bundle.reviewsOf .completed ∨
          audit.waivedReviewCount ≠ bundle.reviewsOf .waivedByExplicitDecision ∨
          audit.cancelledReviewCount ≠ bundle.reviewsOf .cancelled)
        ⟨.decisionAuditMetadata, "audit category count mismatch"⟩

end JudgeDecisionBundle

/-- A decision bundle must hold together. -/
def validateJudgeDecisionBundle (bundle : JudgeDecisionBundle) : Except BundleFailure Unit := do
  judged bundle.validateReferences
  checkEach bundle.validateNested bundle.nested
  judged bundle.validateAudit

end PolicyOS.Judge
