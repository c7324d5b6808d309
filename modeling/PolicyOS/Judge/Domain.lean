import PolicyOS.Metrics.AggregationDomain

/-!
# Judge contracts

Policies of ordered criteria, references to the aggregation records they judge, the
assessments of each criterion, and the decisions recorded of them. Everything is supplied
by a caller: nothing is judged here. Of the two times a record may carry, an assessment has
neither `created_at` nor `recorded_at`, but an `assessed_at`.
-/

namespace PolicyOS.Judge

open Metrics

/-! ## Errors -/

/-- The exception classes of the judge package. -/
inductive JudgeErrorKind
  | criterion | criterionOrdering | inputReference | assessment | assessmentBundle | decision
  | bindingMismatch | classification | lineage | tenant | organization | timestamp
  | duplicateReference | orphanReference | version | decisionBundle | reviewRequirement
  | decisionLineageReference | decisionProvenanceReference | decisionAuditMetadata
  | duplicateDecisionBundleReference | orphanDecisionBundleReference | decisionBundleOrdering
  deriving DecidableEq, Repr

/-- A Judge error with its message. -/
structure JudgeError where
  kind : JudgeErrorKind
  message : String
  deriving DecidableEq, Repr

/-! ## Vocabulary -/

/-- What a policy judges. -/
inductive JudgePolicyType
  | quality | security | compliance | safety | custom
  deriving DecidableEq, Repr

/-- How a criterion is put. -/
inductive JudgeCriterionType
  | boolean | range | reference | enum | opaqueValue
  deriving DecidableEq, Repr

/-- What an assessment found. -/
inductive JudgeAssessmentStatus
  | satisfied | notSatisfied | notEvaluated | unknownRecorded
  deriving DecidableEq, Repr

/-- The state of a decision. -/
inductive JudgeDecisionStatus
  | recorded | unavailable | notApplicable | invalidated
  deriving DecidableEq, Repr

/-- Why an assessment or a decision is what it is. -/
inductive JudgeReasonCode
  | callerSupplied | inputUnavailable | policyNotApplicable | assessmentNotEvaluated
  | decisionInvalidated
  deriving DecidableEq, Repr

/-- The versions of a contract. -/
structure JudgeContractVersion where
  version : String
  contractVersion : String
  deriving DecidableEq

/-- The versions of an aggregation record. -/
structure MetricAggregationRecordVersion where
  aggregationRecordVersion : String
  aggregationRecordContractVersion : String
  deriving DecidableEq

/-! ## Aggregation records -/

/-- An aggregation record with the revisions a judge compares. -/
structure JudgedAggregationRecord extends MetricAggregationRecord where
  recordVersion : MetricAggregationRecordVersion
  policyRevision : Nat
  authorizationRevision : Option Nat := none
  registryRevision : Option Nat := none
  deriving DecidableEq

/-- What a judge reads of an aggregation bundle. -/
structure JudgedAggregationBundle where
  metricAggregationBundleId : UUID
  aggregationRecords : List JudgedAggregationRecord
  deriving DecidableEq

/-! ## Policies -/

/-- The place of a criterion in a policy. -/
structure JudgePolicyCriterionReference where
  policyCriterionReferenceId : UUID
  judgePolicyId : UUID
  judgeCriterionId : UUID
  criterionSequence : Nat
  criterionVersion : JudgeContractVersion
  required : Bool
  createdAt : DateTime
  deriving DecidableEq

/-- One criterion. -/
structure JudgeCriterion where
  judgeCriterionId : UUID
  criterionVersion : JudgeContractVersion
  criterionKey : String
  criterionType : JudgeCriterionType
  expectedAggregationMethod : MetricAggregationMethod
  expectedMetricValueType : MetricValueType
  tenantId : UUID
  organizationId : UUID
  classification : DataClassification
  policyRevision : Nat
  registryRevision : Option Nat := none
  createdAt : DateTime
  deriving DecidableEq

/-- The criteria something is judged by, in order. -/
structure JudgePolicy where
  judgePolicyId : UUID
  judgePolicyVersion : JudgeContractVersion
  judgePolicyType : JudgePolicyType
  orderedCriterionReferences : List JudgePolicyCriterionReference
  tenantId : UUID
  organizationId : UUID
  classification : DataClassification
  policyRevision : Nat
  registryRevision : Option Nat := none
  createdAt : DateTime
  referenced : orderedCriterionReferences ≠ [] := by decide
  deriving DecidableEq

/-- The aggregation record a policy is applied to. -/
structure JudgeInputReference where
  judgeInputReferenceId : UUID
  judgePolicyId : UUID
  judgePolicyVersion : JudgeContractVersion
  metricAggregationRecordId : UUID
  metricAggregationRecordVersion : MetricAggregationRecordVersion
  metricAggregationBundleId : UUID
  aggregationPolicyId : UUID
  aggregationMethod : MetricAggregationMethod
  tenantId : UUID
  organizationId : UUID
  classification : DataClassification
  lineageId : UUID
  lineageDigestReference : String
  policyRevision : Nat
  authorizationRevision : Option Nat := none
  registryRevision : Option Nat := none
  createdAt : DateTime
  deriving DecidableEq

/-! ## Assessments -/

/-- What was found of one criterion on one input. -/
structure JudgeAssessment where
  judgeAssessmentId : UUID
  judgePolicyId : UUID
  judgeCriterionId : UUID
  judgeInputReferenceId : UUID
  metricAggregationRecordId : UUID
  assessmentStatus : JudgeAssessmentStatus
  reasonCodes : List JudgeReasonCode
  actorId : UUID
  authorizationRevision : Option Nat := none
  policyRevision : Nat
  registryRevision : Option Nat := none
  tenantId : UUID
  organizationId : UUID
  classification : DataClassification
  lineageId : UUID
  lineageDigestReference : String
  assessedAt : DateTime
  deriving DecidableEq

/-- The assessments of one policy. -/
structure JudgeAssessmentBundle where
  judgeAssessmentBundleId : UUID
  judgePolicyId : UUID
  judgePolicyVersion : JudgeContractVersion
  judgeInputReferences : List JudgeInputReference
  assessments : List JudgeAssessment
  tenantId : UUID
  organizationId : UUID
  classification : DataClassification
  rootLineageId : UUID
  rootLineageDigestReference : String
  policyRevision : Nat
  authorizationRevision : Option Nat := none
  registryRevision : Option Nat := none
  createdAt : DateTime
  referenced : judgeInputReferences ≠ [] := by decide
  assessed : assessments ≠ [] := by decide
  deriving DecidableEq

/-! ## Decisions -/

/-- What a decision of a status carries. -/
def decisionLifecycle (decisionId : UUID) (status : JudgeDecisionStatus)
    (bundle : Option UUID) (outcome : Option String) (reasons : List JudgeReasonCode)
    (original : Option UUID) (invalidation : Option String) : Prop :=
  let invalidates := original ≠ none ∧ invalidation ≠ none
  match status with
  | .recorded => bundle ≠ none ∧ outcome ≠ none ∧ ¬ invalidates
  | .unavailable => bundle = none ∧ outcome = none ∧ ¬ invalidates ∧
      JudgeReasonCode.inputUnavailable ∈ reasons
  | .notApplicable => bundle = none ∧ outcome = none ∧ ¬ invalidates ∧
      JudgeReasonCode.policyNotApplicable ∈ reasons
  | .invalidated => bundle = none ∧ outcome = none ∧ invalidates ∧
      original ≠ some decisionId ∧ JudgeReasonCode.decisionInvalidated ∈ reasons

instance {decisionId status bundle outcome reasons original invalidation} :
    Decidable (decisionLifecycle decisionId status bundle outcome reasons original invalidation) := by
  unfold decisionLifecycle
  cases status <;> infer_instance

/-- One decision of one policy. -/
structure JudgeDecisionRecord where
  judgeDecisionRecordId : UUID
  judgePolicyId : UUID
  judgePolicyVersion : JudgeContractVersion
  judgeAssessmentBundleId : Option UUID := none
  judgeInputReferenceIds : List UUID
  decisionStatus : JudgeDecisionStatus
  decisionOutcomeReference : Option String := none
  reasonCodes : List JudgeReasonCode
  originalDecisionRecordId : Option UUID := none
  invalidationReference : Option String := none
  actorId : UUID
  tenantId : UUID
  organizationId : UUID
  classification : DataClassification
  lineageId : UUID
  lineageDigestReference : String
  policyRevision : Nat
  authorizationRevision : Option Nat := none
  registryRevision : Option Nat := none
  recordedAt : DateTime
  referenced : judgeInputReferenceIds ≠ [] := by decide
  lifecycle : decisionLifecycle judgeDecisionRecordId decisionStatus judgeAssessmentBundleId
    decisionOutcomeReference reasonCodes originalDecisionRecordId invalidationReference := by decide
  deriving DecidableEq

/-! ## Decision bundles -/

/-- The lineage of some decisions. -/
structure JudgeDecisionLineageReference where
  judgeDecisionLineageReferenceId : UUID
  rootLineageId : UUID
  rootLineageDigestReference : String
  judgeDecisionRecordIds : List UUID
  judgeAssessmentBundleIds : List UUID := []
  judgeInputReferenceIds : List UUID
  parentDecisionBundleIds : List UUID := []
  createdAt : DateTime
  decided : judgeDecisionRecordIds ≠ [] ∧ canonical judgeDecisionRecordIds := by decide
  bundled : canonical judgeAssessmentBundleIds := by
    first | exact canonical_nil | decide
  referenced : judgeInputReferenceIds ≠ [] ∧ canonical judgeInputReferenceIds := by decide
  descended : canonical parentDecisionBundleIds := by
    first | exact canonical_nil | decide
  deriving DecidableEq

/-- What some decisions were made from. -/
structure JudgeDecisionProvenanceReference where
  judgeDecisionProvenanceReferenceId : UUID
  judgePolicyIds : List UUID
  judgeAssessmentBundleIds : List UUID := []
  judgeInputReferenceIds : List UUID
  judgeDecisionRecordIds : List UUID
  policyRevision : Nat
  authorizationRevision : Option Nat := none
  registryRevision : Option Nat := none
  recordedAt : DateTime
  judged : judgePolicyIds ≠ [] ∧ canonical judgePolicyIds := by decide
  bundled : canonical judgeAssessmentBundleIds := by
    first | exact canonical_nil | decide
  referenced : judgeInputReferenceIds ≠ [] ∧ canonical judgeInputReferenceIds := by decide
  decided : judgeDecisionRecordIds ≠ [] ∧ canonical judgeDecisionRecordIds := by decide
  deriving DecidableEq

/-- What a review looks at. -/
inductive JudgeReviewType
  | humanReview | legalReview | policyReview | securityReview | complianceReview
  | classificationReview
  deriving DecidableEq, Repr

/-- The text a review type is stored and sorted by. -/
def JudgeReviewType.value : JudgeReviewType → String
  | .humanReview => "human_review"
  | .legalReview => "legal_review"
  | .policyReview => "policy_review"
  | .securityReview => "security_review"
  | .complianceReview => "compliance_review"
  | .classificationReview => "classification_review"

/-- The state of a review. -/
inductive JudgeReviewStatus
  | required | requested | completed | waivedByExplicitDecision | cancelled
  deriving DecidableEq, Repr

/-- What a review of a status carries. -/
def reviewLifecycle (status : JudgeReviewStatus) (request result waiver : Option String) : Prop :=
  match status with
  | .required => request = none ∧ result = none ∧ waiver = none
  | .requested => request ≠ none ∧ result = none ∧ waiver = none
  | .completed => request ≠ none ∧ result ≠ none ∧ waiver = none
  | .waivedByExplicitDecision => waiver ≠ none ∧ result = none
  | .cancelled => result = none ∧ waiver = none

instance {status request result waiver} :
    Decidable (reviewLifecycle status request result waiver) := by
  unfold reviewLifecycle
  cases status <;> infer_instance

/-- A review some decisions of one policy need. -/
structure JudgeReviewRequirement where
  judgeReviewRequirementId : UUID
  judgeDecisionBundleId : UUID
  judgeDecisionRecordIds : List UUID
  reviewType : JudgeReviewType
  reviewStatus : JudgeReviewStatus
  reviewRequestReference : Option String := none
  reviewResultReference : Option String := none
  waiverReference : Option String := none
  tenantId : UUID
  organizationId : UUID
  classification : DataClassification
  lineageReference : JudgeDecisionLineageReference
  provenanceReference : JudgeDecisionProvenanceReference
  policyRevision : Nat
  authorizationRevision : Option Nat := none
  registryRevision : Option Nat := none
  createdAt : DateTime
  decided : judgeDecisionRecordIds ≠ [] ∧ canonical judgeDecisionRecordIds := by decide
  lifecycle : reviewLifecycle reviewStatus reviewRequestReference reviewResultReference
    waiverReference := by decide
  deriving DecidableEq

/-- The counts of a decision bundle, supplied with it. -/
structure JudgeDecisionAuditMetadata where
  judgeDecisionBundleId : UUID
  bundleVersion : JudgeContractVersion
  policyCount : Nat
  criterionCount : Nat
  policyCriterionReferenceCount : Nat
  inputReferenceCount : Nat
  assessmentCount : Nat
  assessmentBundleCount : Nat
  decisionRecordCount : Nat
  reviewRequirementCount : Nat
  requiredReviewCount : Nat
  requestedReviewCount : Nat
  completedReviewCount : Nat
  waivedReviewCount : Nat
  cancelledReviewCount : Nat
  invalidatedDecisionCount : Nat
  tenantId : UUID
  organizationId : UUID
  classification : DataClassification
  createdAt : DateTime
  deriving DecidableEq

/-- Policies, what they judged, and the decisions made of it. -/
structure JudgeDecisionBundle where
  judgeDecisionBundleId : UUID
  bundleVersion : JudgeContractVersion
  policies : List JudgePolicy
  criteria : List JudgeCriterion
  policyCriterionReferences : List JudgePolicyCriterionReference
  inputReferences : List JudgeInputReference
  assessments : List JudgeAssessment := []
  assessmentBundles : List JudgeAssessmentBundle := []
  decisionRecords : List JudgeDecisionRecord
  reviewRequirements : List JudgeReviewRequirement := []
  lineageReferences : List JudgeDecisionLineageReference
  provenanceReferences : List JudgeDecisionProvenanceReference
  tenantId : UUID
  organizationId : UUID
  classification : DataClassification
  rootLineageId : UUID
  rootLineageDigestReference : String
  auditMetadata : Option JudgeDecisionAuditMetadata := none
  createdAt : DateTime
  judged : policies ≠ [] ∧ criteria ≠ [] ∧ policyCriterionReferences ≠ [] ∧
    inputReferences ≠ [] := by decide
  decided : decisionRecords ≠ [] ∧ lineageReferences ≠ [] ∧ provenanceReferences ≠ [] := by decide
  deriving DecidableEq

end PolicyOS.Judge
