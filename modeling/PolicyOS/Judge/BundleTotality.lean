import PolicyOS.Judge.DecisionBundle
import PolicyOS.Metrics.AggregationClassification

/-!
# Which decision bundles can be validated

The validation of a bundle reads a time of every part, and an assessment has none it looks
for. So a bundle of valid references crashes as soon as it holds an assessment, unless a
part looked at before follows it. A recorded decision rests on an assessment bundle, which
is never empty and whose assessments its decision bundle must hold: no recorded decision is
ever in a validated bundle.
-/

namespace PolicyOS.Judge

open Foundation

/-! ## Crashes -/

variable {name : String}

/-- A Judge error is not an attribute that is missing. -/
@[simp] theorem judged_ne_attributeError {Value : Type} {result : Except JudgeError Value} :
    judged result ≠ .error (.attributeError name) := by
  cases result <;> simp [judged, Except.mapError]

namespace JudgeDecisionBundle

variable (bundle : JudgeDecisionBundle)

/-- The parts looked at before the assessments do not follow the bundle. -/
def sourcesPrecede : Prop :=
  (∀ item ∈ bundle.policies, item.createdAt ≤ bundle.createdAt) ∧
    (∀ item ∈ bundle.criteria, item.createdAt ≤ bundle.createdAt) ∧
    ∀ item ∈ bundle.inputReferences, item.createdAt ≤ bundle.createdAt

/-- The time of an assessment is reached, and looked for. -/
def reachesAssessments : Prop :=
  bundle.validateReferences = .ok () ∧ bundle.sourcesPrecede ∧ bundle.assessments ≠ []

variable {bundle}

/-- A part that was created must not have been later. -/
@[simp] theorem validateNested_created {time : DateTime} :
    bundle.validateNested { createdAt := some time } = .ok () ↔ time ≤ bundle.createdAt := by
  simp [validateNested]

/-- A part without a time is refused. -/
@[simp] theorem validateNested_undated :
    bundle.validateNested ⟨none, none⟩ = .error (.attributeError "recorded_at") :=
  rfl

theorem undated_of_crash {item : NestedMetadata}
    (crashed : bundle.validateNested item = .error (.attributeError name)) :
    item = ⟨none, none⟩ := by
  obtain ⟨createdAt, recordedAt⟩ := item
  cases createdAt <;> cases recordedAt <;> simp [validateNested] at crashed ⊢

theorem not_crash_of_dated {Item : Type} {items : List Item} {times : Item → NestedMetadata}
    (dated : ∀ item ∈ items, times item ≠ ⟨none, none⟩) :
    checkEach bundle.validateNested (items.map times) ≠ .error (.attributeError name) := by
  intro crashed
  obtain ⟨_, isTimes, crash⟩ := exists_of_checkEach_error crashed
  obtain ⟨item, isItem, rfl⟩ := List.mem_map.mp isTimes
  exact dated item isItem (undated_of_crash crash)

theorem not_crash_of_created {Item : Type} {items : List Item} {time : Item → DateTime} :
    checkEach bundle.validateNested
        (items.map fun item => { createdAt := some (time item) }) ≠
      .error (.attributeError name) :=
  not_crash_of_dated (by simp)

theorem not_crash_of_recorded {Item : Type} {items : List Item} {time : Item → DateTime} :
    checkEach bundle.validateNested
        (items.map fun item => { recordedAt := some (time item) }) ≠
      .error (.attributeError name) :=
  not_crash_of_dated (by simp)

/-- The assessments crash as soon as there is one. -/
theorem assessments_crash_iff :
    checkEach bundle.validateNested
        (bundle.assessments.map fun _ => (⟨none, none⟩ : NestedMetadata)) =
          .error (.attributeError name) ↔
      bundle.assessments ≠ [] ∧ name = "recorded_at" := by
  cases bundle.assessments with
  | nil => simp [checkEach]
  | cons first rest =>
      have raised : checkEach bundle.validateNested
          ((first :: rest).map fun _ => ⟨none, none⟩) = .error (.attributeError "recorded_at") :=
        rfl
      rw [raised]
      simp [eq_comm]

theorem times_crash_iff :
    checkEach bundle.validateNested bundle.nested = .error (.attributeError name) ↔
      bundle.sourcesPrecede ∧ bundle.assessments ≠ [] ∧ name = "recorded_at" := by
  simp only [nested, checkEach_append, bind_eq_error_iff, bind_eq_ok_iff, exists_unit_iff,
    assessments_crash_iff, checkEach_eq_ok_iff, List.forall_mem_map, validateNested_created,
    not_crash_of_created, not_crash_of_recorded, false_or, or_false, and_false, sourcesPrecede,
    and_assoc]

theorem crash_iff :
    validateJudgeDecisionBundle bundle = .error (.attributeError name) ↔
      bundle.reachesAssessments ∧ name = "recorded_at" := by
  simp only [validateJudgeDecisionBundle, bind_eq_error_iff, exists_unit_iff,
    judged_ne_attributeError, judged_eq_ok_iff, times_crash_iff, false_or, or_false, and_false,
    reachesAssessments, and_assoc]

theorem assessments_eq_nil (validated : validateJudgeDecisionBundle bundle = .ok ()) :
    bundle.assessments = [] := by
  simp only [validateJudgeDecisionBundle, bind_eq_ok_iff, exists_unit_iff, checkEach_eq_ok_iff]
    at validated
  obtain ⟨-, inTime, -⟩ := validated
  refine List.eq_nil_iff_forall_not_mem.mpr fun assessment isAssessed => ?_
  have dated := inTime ⟨none, none⟩ (by simp [nested, List.ne_nil_of_mem isAssessed])
  rw [validateNested_undated] at dated
  cases dated

theorem references_valid (validated : validateJudgeDecisionBundle bundle = .ok ()) :
    bundle.validateReferences = .ok () := by
  simp only [validateJudgeDecisionBundle, bind_eq_ok_iff, exists_unit_iff, judged_eq_ok_iff]
    at validated
  exact validated.1

/-- The assessments of every assessment bundle are in the bundle. -/
theorem assessments_mem (valid : bundle.validateReferences = .ok ())
    {assessmentBundle : JudgeAssessmentBundle} (isBundled : assessmentBundle ∈ bundle.assessmentBundles)
    {assessment : JudgeAssessment} (isAssessed : assessment ∈ assessmentBundle.assessments) :
    assessment ∈ bundle.assessments := by
  simp only [validateReferences, bind_eq_ok_iff, exists_unit_iff, checkEach_eq_ok_iff] at valid
  obtain ⟨-, -, -, -, -, -, -, bundles, -⟩ := valid
  have checked := bundles assessmentBundle isBundled
  simp only [validateAssessmentBundle, bind_eq_ok_iff, exists_unit_iff, rejectIf_eq_ok_iff]
    at checked
  by_contra missing
  exact checked.2.2.2 ⟨assessment, isAssessed, .inl missing⟩

theorem assessmentBundles_eq_nil (validated : validateJudgeDecisionBundle bundle = .ok ()) :
    bundle.assessmentBundles = [] := by
  by_contra bundled
  obtain ⟨assessmentBundle, isBundled⟩ := List.exists_mem_of_ne_nil _ bundled
  obtain ⟨assessment, isAssessed⟩ := List.exists_mem_of_ne_nil _ assessmentBundle.assessed
  have present := assessments_mem (references_valid validated) isBundled isAssessed
  rw [assessments_eq_nil validated] at present
  exact List.not_mem_nil present

/-- No decision of a validated bundle is recorded. -/
theorem not_recorded (validated : validateJudgeDecisionBundle bundle = .ok ())
    {decision : JudgeDecisionRecord} (isDecided : decision ∈ bundle.decisionRecords) :
    decision.decisionStatus ≠ .recorded := by
  intro recorded
  have valid := references_valid validated
  simp only [validateReferences, bind_eq_ok_iff, exists_unit_iff, checkEach_eq_ok_iff] at valid
  obtain ⟨-, -, -, -, -, -, -, -, decisions, -⟩ := valid
  have checked := decisions decision isDecided
  have lifecycle := decision.lifecycle
  rw [recorded] at lifecycle
  simp only [validateDecision, bind_eq_ok_iff, exists_unit_iff, rejectIf_eq_ok_iff,
    assessmentBundles_eq_nil validated] at checked
  obtain ⟨_, -, -, known, -⟩ := checked
  exact known ⟨lifecycle.1, by cases decision.judgeAssessmentBundleId <;> rfl⟩

end JudgeDecisionBundle

/-! ## Recorded decisions -/

/-- A recorded decision of a policy, with the assessments it rests on, all accepted and of
one root lineage. -/
structure RecordedJudgement where
  policy : JudgePolicy
  criteria : List JudgeCriterion
  aggregation : JudgedAggregationBundle
  assessmentBundle : JudgeAssessmentBundle
  decision : JudgeDecisionRecord
  assessed : validateJudgeAssessmentBundle assessmentBundle policy criteria aggregation = .ok ()
  decided : validateJudgeDecisionRecord decision policy assessmentBundle.judgeInputReferences
    (some assessmentBundle) = .ok ()
  recorded : decision.decisionStatus = .recorded
  rooted : decision.lineageId = assessmentBundle.rootLineageId ∧
    decision.lineageDigestReference = assessmentBundle.rootLineageDigestReference

/-- A decision bundle holds a judgement. -/
structure JudgeDecisionBundle.Holds (bundle : JudgeDecisionBundle)
    (judgement : RecordedJudgement) : Prop where
  policy : judgement.policy ∈ bundle.policies
  criteria : judgement.criteria ⊆ bundle.criteria
  inputReferences : judgement.assessmentBundle.judgeInputReferences ⊆ bundle.inputReferences
  assessmentBundle : judgement.assessmentBundle ∈ bundle.assessmentBundles
  decision : judgement.decision ∈ bundle.decisionRecords

/-- A judgement is in some bundle that is validated. -/
def RecordedJudgement.Bundlable (judgement : RecordedJudgement) : Prop :=
  ∃ bundle : JudgeDecisionBundle, bundle.Holds judgement ∧
    validateJudgeDecisionBundle bundle = .ok ()

theorem RecordedJudgement.not_validated (judgement : RecordedJudgement)
    {bundle : JudgeDecisionBundle} (holds : bundle.Holds judgement) :
    validateJudgeDecisionBundle bundle ≠ .ok () :=
  fun validated => JudgeDecisionBundle.not_recorded validated holds.decision judgement.recorded

/-! ## Validation in general -/

/-- A validation returns the bundle or raises a Judge error. -/
def JudgeDecisionBundle.NeverCrashes (bundle : JudgeDecisionBundle) : Prop :=
  validateJudgeDecisionBundle bundle = .ok () ∨
    ∃ error, validateJudgeDecisionBundle bundle = .error (.judge error)

theorem JudgeDecisionBundle.neverCrashes_iff {bundle : JudgeDecisionBundle} :
    bundle.NeverCrashes ↔
      ∀ name, validateJudgeDecisionBundle bundle ≠ .error (.attributeError name) := by
  rw [JudgeDecisionBundle.NeverCrashes]
  rcases validateJudgeDecisionBundle bundle with (error | name) | ⟨⟩ <;> simp

namespace Sample

/-- The versions of every contract. -/
def version : JudgeContractVersion where
  version := "v1"
  contractVersion := "contract-v1"

/-- The aggregation record that is judged. -/
def aggregationRecord : JudgedAggregationRecord where
  toMetricAggregationRecord := Metrics.Sample.record
  recordVersion :=
    { aggregationRecordVersion := "record-v1", aggregationRecordContractVersion := "contract-v1" }
  policyRevision := 1

/-- The bundle of the record. -/
def aggregation : JudgedAggregationBundle where
  metricAggregationBundleId := 15
  aggregationRecords := [aggregationRecord]

/-- The place of the criterion. -/
def criterionReference : JudgePolicyCriterionReference where
  policyCriterionReferenceId := 30
  judgePolicyId := 31
  judgeCriterionId := 32
  criterionSequence := 1
  criterionVersion := version
  required := true
  createdAt := 6

/-- The only criterion. -/
def criterion : JudgeCriterion where
  judgeCriterionId := 32
  criterionVersion := version
  criterionKey := "quality"
  criterionType := .boolean
  expectedAggregationMethod := .mean
  expectedMetricValueType := .decimal
  tenantId := 100
  organizationId := 101
  classification := .internal
  policyRevision := 1
  createdAt := 6

/-- The policy of the criterion. -/
def policy : JudgePolicy where
  judgePolicyId := 31
  judgePolicyVersion := version
  judgePolicyType := .quality
  orderedCriterionReferences := [criterionReference]
  tenantId := 100
  organizationId := 101
  classification := .internal
  policyRevision := 1
  createdAt := 6

/-- The record as the input of the policy. -/
def inputReference : JudgeInputReference where
  judgeInputReferenceId := 33
  judgePolicyId := 31
  judgePolicyVersion := version
  metricAggregationRecordId := 14
  metricAggregationRecordVersion := aggregationRecord.recordVersion
  metricAggregationBundleId := 15
  aggregationPolicyId := 7
  aggregationMethod := .mean
  tenantId := 100
  organizationId := 101
  classification := .internal
  lineageId := 4
  lineageDigestReference := "lineage"
  policyRevision := 1
  createdAt := 7

/-- The criterion was met. -/
def assessment : JudgeAssessment where
  judgeAssessmentId := 34
  judgePolicyId := 31
  judgeCriterionId := 32
  judgeInputReferenceId := 33
  metricAggregationRecordId := 14
  assessmentStatus := .satisfied
  reasonCodes := [.callerSupplied]
  actorId := 102
  policyRevision := 1
  tenantId := 100
  organizationId := 101
  classification := .internal
  lineageId := 4
  lineageDigestReference := "lineage"
  assessedAt := 8

/-- The assessments of the policy. -/
def assessmentBundle : JudgeAssessmentBundle where
  judgeAssessmentBundleId := 35
  judgePolicyId := 31
  judgePolicyVersion := version
  judgeInputReferences := [inputReference]
  assessments := [assessment]
  tenantId := 100
  organizationId := 101
  classification := .internal
  rootLineageId := 4
  rootLineageDigestReference := "lineage"
  policyRevision := 1
  createdAt := 9

/-- The decision on the assessments. -/
def decision : JudgeDecisionRecord where
  judgeDecisionRecordId := 36
  judgePolicyId := 31
  judgePolicyVersion := version
  judgeAssessmentBundleId := some 35
  judgeInputReferenceIds := [33]
  decisionStatus := .recorded
  decisionOutcomeReference := some "approved"
  reasonCodes := [.callerSupplied]
  actorId := 102
  tenantId := 100
  organizationId := 101
  classification := .internal
  lineageId := 4
  lineageDigestReference := "lineage"
  policyRevision := 1
  recordedAt := 10

/-- The decision with what it rests on. -/
def judgement : RecordedJudgement where
  policy := policy
  criteria := [criterion]
  aggregation := aggregation
  assessmentBundle := assessmentBundle
  decision := decision
  assessed := by decide +kernel
  decided := by decide +kernel
  recorded := rfl
  rooted := ⟨rfl, rfl⟩

/-- The lineage of the decision. -/
def lineageReference : JudgeDecisionLineageReference where
  judgeDecisionLineageReferenceId := 37
  rootLineageId := 4
  rootLineageDigestReference := "lineage"
  judgeDecisionRecordIds := [36]
  judgeAssessmentBundleIds := [35]
  judgeInputReferenceIds := [33]
  createdAt := 10

/-- The provenance of the decision. -/
def provenanceReference : JudgeDecisionProvenanceReference where
  judgeDecisionProvenanceReferenceId := 38
  judgePolicyIds := [31]
  judgeAssessmentBundleIds := [35]
  judgeInputReferenceIds := [33]
  judgeDecisionRecordIds := [36]
  policyRevision := 1
  recordedAt := 10

/-- The bundle of all of it. -/
def bundle : JudgeDecisionBundle where
  judgeDecisionBundleId := 39
  bundleVersion := version
  policies := [policy]
  criteria := [criterion]
  policyCriterionReferences := [criterionReference]
  inputReferences := [inputReference]
  assessments := [assessment]
  assessmentBundles := [assessmentBundle]
  decisionRecords := [decision]
  lineageReferences := [lineageReference]
  provenanceReferences := [provenanceReference]
  tenantId := 100
  organizationId := 101
  classification := .internal
  rootLineageId := 4
  rootLineageDigestReference := "lineage"
  createdAt := 11

end Sample

end PolicyOS.Judge
