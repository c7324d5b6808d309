import PolicyOS.CrossValidation.Comparison
import PolicyOS.Metrics.Domain

/-!
# Consensus decisions

Candidates for a consensus are made of claims of successful runs and of comparison records of
these claims, a decision names candidates and conflict groups, and a package holds all of them.
Each carries a status its caller gives it. A status is derived from comparison records by a
function of its own, which nothing here calls.
-/

namespace PolicyOS.CrossValidation

open Foundation Metrics

/-! ## Vocabulary -/

/-- The exception classes of consensus contracts, and that of a contract that is not valid. -/
inductive ConsensusErrorKind
  | value | validation | lineage | duplicate | classification | package
  deriving DecidableEq, Repr

/-- A consensus error with its message. -/
structure ConsensusError where
  kind : ConsensusErrorKind
  message : String
  deriving DecidableEq, Repr

/-- How far claims agree. -/
inductive ConsensusStatus
  | agreed | partiallyAgreed | conflicting | insufficientEvidence | incompleteComparison
  | manualReviewRequired | noConsensus
  deriving DecidableEq, Repr

/-- Why a status was given, in the order of the alphabet. -/
inductive ConsensusReasonCode
  | allRequiredComparisonsCompatible | classificationReviewRequired | comparisonMissing
  | evidenceConflict | evidenceMissing | explicitContradictionPresent | humanReviewRequired
  | insufficientIndependentRuns | legalReviewRequired | noStructuralAgreement
  | nonOverlappingClaimsPresent | partialContradictionPresent | partialStructuralAlignment
  | policyReviewRequired | qualificationRequired | refinementRequired | riskReviewRequired
  deriving DecidableEq, Repr

/-- How a run ended. -/
inductive ModelRunStatus
  | succeeded | failed
  deriving DecidableEq, Repr

/-- The relations that agree. -/
def compatibleRelations : List ClaimRelation :=
  [.equivalent, .supporting, .partiallySupporting, .refining, .qualifying, .duplicative]

/-- The relations that leave a comparison open. -/
def unresolvedRelations : List ClaimRelation :=
  [.nonOverlapping, .insufficientInformation, .unknown]

/-- The relations that contradict. -/
def conflictRelations : List ClaimRelation := [.contradictory, .partiallyContradictory]

/-- The most items of a list. -/
def maxConsensusItems : Nat := 500

/-- Values must be listed once each, in order, neither too few nor too many. -/
def canonicalValues {Key : Type} [LinearOrder Key] (minimum : Nat) (values : List Key)
    (name : String) : Except ConsensusError Unit := do
  rejectIf (values.length < minimum ∨ maxConsensusItems < values.length)
    ⟨.value, name ++ " has invalid bounded length"⟩
  rejectIf (¬ values.Pairwise (· < ·)) ⟨.value, name ++ " must be canonical and unique"⟩

/-- The effective classification must cover what is included. -/
def requireConsensusClassification (effective included : DataClassification) :
    Except ConsensusError Unit :=
  rejectIf (¬ notLower effective included)
    ⟨.classification, "effective consensus classification is too low"⟩

/-! ## What a consensus is made of -/

/-- The plan, tenant, resource and registry something is of. -/
structure ConsensusLineage where
  planId : UUID
  tenantId : UUID
  resourceId : BoundedId
  registryId : UUID
  registryRevision : Nat
  deriving DecidableEq

/-- What is to be assessed. -/
structure ConsensusAssessmentSpecification extends ConsensusLineage where
  assessmentId : UUID
  comparisonCollectionId : UUID
  expectedClaimIds : List UUID
  expectedComparisonIds : List UUID
  minimumIndependentRuns : Nat
  canonicalIds : canonicalValues 1 expectedClaimIds "expected_claim_ids" = .ok () ∧
    canonicalValues 1 expectedComparisonIds "expected_comparison_ids" = .ok () := by decide
  several : 2 ≤ minimumIndependentRuns := by decide

/-- What a consensus reads of a claim. -/
structure ConsensusClaim extends ConsensusLineage where
  claimId : UUID
  runId : UUID
  runResultId : UUID
  modelId : BoundedId
  providerInstanceId : BoundedId
  classification : DataClassification
  deriving DecidableEq

/-- What a consensus reads of the result of a run. -/
structure ModelRunResult where
  runResultId : UUID
  runId : UUID
  planId : UUID
  modelId : BoundedId
  providerInstanceId : BoundedId
  runStatus : ModelRunStatus
  deriving DecidableEq

/-- What a consensus reads of an evidence set. -/
structure ConsensusEvidenceSet where
  planId : UUID
  tenantId : UUID
  resourceId : BoundedId
  classification : DataClassification
  evidenceReferenceIds : List UUID
  deriving DecidableEq

/-! ## Candidates -/

/-- What supports a candidate independently. -/
structure IndependentSupportSummary where
  distinctRunIds : List UUID
  distinctModelIds : List BoundedId
  distinctProviderInstanceIds : List BoundedId
  supportingClaimIds : List UUID
  supportingComparisonIds : List UUID
  evidenceReferenceIds : List UUID

/-- The validators of a summary. -/
def IndependentSupportSummary.validate (support : IndependentSupportSummary) :
    Except ConsensusError Unit := do
  canonicalValues 0 support.distinctRunIds "distinct_run_ids"
  canonicalValues 0 support.distinctModelIds "distinct_model_ids"
  canonicalValues 0 support.distinctProviderInstanceIds "distinct_provider_instance_ids"
  canonicalValues 0 support.supportingClaimIds "supporting_claim_ids"
  canonicalValues 0 support.supportingComparisonIds "supporting_comparison_ids"
  canonicalValues 0 support.evidenceReferenceIds "evidence_reference_ids"

/-- What a candidate carries. -/
structure ConsensusCandidateFields extends ConsensusLineage where
  candidateId : UUID
  assessmentId : UUID
  claimIds : List UUID
  runIds : List UUID
  runResultIds : List UUID
  comparisonRecordIds : List UUID
  evidenceReferenceIds : List UUID
  support : IndependentSupportSummary
  status : ConsensusStatus
  reasonCodes : List ConsensusReasonCode
  effectiveClassification : DataClassification

/-- The validators of a candidate. -/
def ConsensusCandidateFields.validate (fields : ConsensusCandidateFields) :
    Except ConsensusError Unit := do
  fields.support.validate
  canonicalValues 1 fields.claimIds "claim_ids"
  canonicalValues 1 fields.runIds "run_ids"
  canonicalValues 1 fields.runResultIds "run_result_ids"
  canonicalValues 0 fields.comparisonRecordIds "comparison_record_ids"
  canonicalValues 0 fields.evidenceReferenceIds "evidence_reference_ids"
  canonicalValues 1 (fields.reasonCodes.map (·.ctorIdx)) "reason_codes"
  rejectIf (fields.status = .agreed ∧ fields.runIds.length < 2)
    ⟨.value, "agreed candidate requires two independent runs"⟩

/-- A validated candidate. -/
structure ConsensusCandidate extends ConsensusCandidateFields where
  validated : toConsensusCandidateFields.validate = .ok ()

/-- What a candidate is made from. -/
structure CandidateRequest where
  claims : List ConsensusClaim
  comparisonRecords : List ClaimComparisonRecord
  runResults : List ModelRunResult
  evidenceSet : ConsensusEvidenceSet
  candidateId : UUID
  claimIds : List UUID
  comparisonRecordIds : List UUID
  evidenceReferenceIds : List UUID := []
  status : ConsensusStatus
  reasonCodes : List ConsensusReasonCode
  effectiveClassification : DataClassification

namespace CandidateRequest

variable (request : CandidateRequest)

/-- The claims a candidate names. -/
def selectedClaims : List ConsensusClaim :=
  request.claimIds.filterMap (lookup (·.claimId) request.claims)

/-- The comparison records a candidate names. -/
def selectedRecords : List ClaimComparisonRecord :=
  request.comparisonRecordIds.filterMap
    (lookup (·.comparisonRecordId) request.comparisonRecords)

/-- A claim is of a run that succeeded, as the given results have it. -/
def Succeeded (claim : ConsensusClaim) : Prop :=
  ∃ result ∈ lookup (·.runResultId) request.runResults claim.runResultId,
    result.runStatus = .succeeded ∧ result.runId = claim.runId ∧
      result.planId = claim.planId ∧ result.modelId = claim.modelId ∧
      result.providerInstanceId = claim.providerInstanceId

instance (claim : ConsensusClaim) : Decidable (request.Succeeded claim) :=
  inferInstanceAs (Decidable (∃ _ ∈ lookup _ _ _, _))

/-- The runs of the claims a candidate names. -/
def runIds : List UUID := sortedSet (request.selectedClaims.map (·.runId))

end CandidateRequest

/-- Make a candidate of claims, of the comparison records of them and of a status. -/
def createConsensusCandidate (specification : ConsensusAssessmentSpecification)
    (request : CandidateRequest) : Except ConsensusError ConsensusCandidate := do
  rejectIf (¬ (request.claims.map (·.claimId)).Nodup) ⟨.duplicate, "duplicate claim identity"⟩
  rejectIf (¬ request.claimIds ⊆ specification.expectedClaimIds ∨
      ¬ request.claimIds ⊆ request.claims.map (·.claimId))
    ⟨.validation, "candidate references unknown claim"⟩
  rejectIf (¬ request.comparisonRecordIds ⊆
      request.comparisonRecords.map (·.comparisonRecordId))
    ⟨.validation, "candidate references unknown comparison record"⟩
  rejectIf (∃ record ∈ request.selectedRecords,
      record.comparisonId ∉ specification.expectedComparisonIds ∨
      record.planId ≠ specification.planId ∨
      ¬ [record.leftClaimId, record.rightClaimId] ⊆ request.claimIds)
    ⟨.lineage, "candidate comparison lineage mismatch"⟩
  rejectIf (¬ request.evidenceReferenceIds ⊆ request.evidenceSet.evidenceReferenceIds)
    ⟨.validation, "candidate references unknown evidence"⟩
  rejectIf ((request.evidenceSet.planId, request.evidenceSet.tenantId,
        request.evidenceSet.resourceId) ≠
      (specification.planId, specification.tenantId, specification.resourceId))
    ⟨.lineage, "candidate evidence lineage mismatch"⟩
  requireConsensusClassification request.effectiveClassification
    request.evidenceSet.classification
  rejectIf (∃ claim ∈ request.selectedClaims, ¬ request.Succeeded claim)
    ⟨.validation, "candidate requires successful supplied run results"⟩
  rejectIf (∃ claim ∈ request.selectedClaims,
      claim.toConsensusLineage ≠ specification.toConsensusLineage)
    ⟨.lineage, "candidate claim lineage mismatch"⟩
  checkEach (fun claim =>
    requireConsensusClassification request.effectiveClassification claim.classification)
    request.selectedClaims
  rejectIf (request.status = .agreed ∧
      request.runIds.length < specification.minimumIndependentRuns)
    ⟨.validation, "insufficient independent runs"⟩
  let orderedClaims := sortedBy id request.claimIds
  let orderedRecords := sortedBy id request.comparisonRecordIds
  let orderedEvidence := sortedBy id request.evidenceReferenceIds
  let fields : ConsensusCandidateFields := {
    toConsensusLineage := specification.toConsensusLineage
    candidateId := request.candidateId
    assessmentId := specification.assessmentId
    claimIds := orderedClaims
    runIds := request.runIds
    runResultIds := sortedSet (request.selectedClaims.map (·.runResultId))
    comparisonRecordIds := orderedRecords
    evidenceReferenceIds := orderedEvidence
    support := {
      distinctRunIds := request.runIds
      distinctModelIds := sortedSet (request.selectedClaims.map (·.modelId))
      distinctProviderInstanceIds :=
        sortedSet (request.selectedClaims.map (·.providerInstanceId))
      supportingClaimIds := orderedClaims
      supportingComparisonIds := orderedRecords
      evidenceReferenceIds := orderedEvidence }
    status := request.status
    reasonCodes := sortedBy (·.ctorIdx) request.reasonCodes
    effectiveClassification := request.effectiveClassification }
  buildChecked fields.validate fun valid => ⟨fields, valid⟩

/-! ## Statuses -/

/-- The status comparison records come to. -/
def deriveConsensusStatus (records : List ClaimComparisonRecord)
    (expectedComparisonIds : List UUID) (manualReviewRequired evidenceInsufficient : Bool) :
    ConsensusStatus :=
  let compared := records.map (·.comparisonId)
  let relations := records.map (·.relation)
  if manualReviewRequired then .manualReviewRequired
  else if ¬ (compared ⊆ expectedComparisonIds ∧ expectedComparisonIds ⊆ compared) then
    .incompleteComparison
  else if ∃ relation ∈ relations, relation ∈ conflictRelations then .conflicting
  else if evidenceInsufficient ∨ ∃ record ∈ records, record.missingEvidenceForClaimIds ≠ [] then
    .insufficientEvidence
  else if (∃ relation ∈ relations, relation ∈ compatibleRelations) ∧
      ∃ relation ∈ relations, relation ∈ unresolvedRelations then .partiallyAgreed
  else if relations ≠ [] ∧ relations ⊆ compatibleRelations then .agreed
  else .noConsensus

/-! ## Decisions -/

/-- What decisions and packages read of a candidate, a conflict group or a review requirement. -/
structure ConsensusItem where
  itemId : UUID
  planId : UUID
  assessmentId : UUID
  effectiveClassification : DataClassification
  deriving DecidableEq

/-- A candidate as an item of a decision. -/
def ConsensusCandidate.item (candidate : ConsensusCandidate) : ConsensusItem :=
  ⟨candidate.candidateId, candidate.planId, candidate.assessmentId,
    candidate.effectiveClassification⟩

/-- What is decided. -/
structure ConsensusDecisionFields extends ConsensusLineage where
  decisionId : UUID
  assessmentId : UUID
  comparisonCollectionId : UUID
  status : ConsensusStatus
  candidateIds : List UUID
  conflictGroupIds : List UUID
  reviewRequirementIds : List UUID
  reasonCodes : List ConsensusReasonCode
  effectiveClassification : DataClassification

/-- The validators of a decision. -/
def ConsensusDecisionFields.validate (fields : ConsensusDecisionFields) :
    Except ConsensusError Unit := do
  canonicalValues 0 fields.candidateIds "candidate_ids"
  canonicalValues 0 fields.conflictGroupIds "conflict_group_ids"
  canonicalValues 0 fields.reviewRequirementIds "review_requirement_ids"
  canonicalValues 1 (fields.reasonCodes.map (·.ctorIdx)) "reason_codes"

/-- A validated decision. -/
structure ConsensusDecisionRecord extends ConsensusDecisionFields where
  validated : toConsensusDecisionFields.validate = .ok ()

/-- What a decision is made from. -/
structure DecisionRequest where
  candidates : List ConsensusItem := []
  conflictGroups : List ConsensusItem := []
  reviewRequirements : List ConsensusItem := []
  decisionId : UUID
  status : ConsensusStatus
  candidateIds : List UUID := []
  conflictGroupIds : List UUID := []
  reviewRequirementIds : List UUID := []
  reasonCodes : List ConsensusReasonCode
  effectiveClassification : DataClassification

/-- The items a decision names must be given, of its assessment, and covered by it. -/
def checkDecisionItems (specification : ConsensusAssessmentSpecification)
    (effective : DataClassification) (items : List ConsensusItem) (ids : List UUID) :
    Except ConsensusError Unit := do
  rejectIf (¬ ids ⊆ items.map (·.itemId)) ⟨.validation, "decision references unknown item"⟩
  checkEach (fun item => do
    rejectIf (item.planId ≠ specification.planId ∨
        item.assessmentId ≠ specification.assessmentId)
      ⟨.lineage, "decision item lineage mismatch"⟩
    requireConsensusClassification effective item.effectiveClassification)
    (ids.filterMap (lookup (·.itemId) items))

/-- Make a decision of a status on the items it names. -/
def createConsensusDecisionRecord (specification : ConsensusAssessmentSpecification)
    (request : DecisionRequest) : Except ConsensusError ConsensusDecisionRecord := do
  let check := checkDecisionItems specification request.effectiveClassification
  check request.candidates request.candidateIds
  check request.conflictGroups request.conflictGroupIds
  check request.reviewRequirements request.reviewRequirementIds
  let fields : ConsensusDecisionFields := {
    toConsensusLineage := specification.toConsensusLineage
    decisionId := request.decisionId
    assessmentId := specification.assessmentId
    comparisonCollectionId := specification.comparisonCollectionId
    status := request.status
    candidateIds := sortedBy id request.candidateIds
    conflictGroupIds := sortedBy id request.conflictGroupIds
    reviewRequirementIds := sortedBy id request.reviewRequirementIds
    reasonCodes := sortedBy (·.ctorIdx) request.reasonCodes
    effectiveClassification := request.effectiveClassification }
  buildChecked fields.validate fun valid => ⟨fields, valid⟩

/-! ## Packages -/

/-- What a package holds. -/
structure ConsensusPackageFields where
  packageId : UUID
  assessmentSpecification : ConsensusAssessmentSpecification
  candidates : List ConsensusCandidate
  conflictGroups : List ConsensusItem
  reviewRequirements : List ConsensusItem
  decision : ConsensusDecisionRecord
  effectiveClassification : DataClassification

/-- The items of a package must be listed once each, in order, and of its assessment. -/
def ConsensusPackageFields.validateItems (fields : ConsensusPackageFields)
    (items : List ConsensusItem) : Except ConsensusError Unit := do
  rejectIf (¬ canonical (items.map (·.itemId)))
    ⟨.value, "package items must be canonical and unique"⟩
  checkEach (fun item => do
    rejectIf (item.planId ≠ fields.assessmentSpecification.planId ∨
        item.assessmentId ≠ fields.assessmentSpecification.assessmentId)
      ⟨.value, "package item lineage mismatch"⟩
    requireConsensusClassification fields.effectiveClassification item.effectiveClassification)
    items

/-- The validators of a package. -/
def ConsensusPackageFields.validate (fields : ConsensusPackageFields) :
    Except ConsensusError Unit := do
  fields.validateItems (fields.candidates.map (·.item))
  fields.validateItems fields.conflictGroups
  fields.validateItems fields.reviewRequirements
  rejectIf (fields.decision.planId ≠ fields.assessmentSpecification.planId ∨
      fields.decision.assessmentId ≠ fields.assessmentSpecification.assessmentId)
    ⟨.value, "package decision lineage mismatch"⟩
  requireConsensusClassification fields.effectiveClassification
    fields.decision.effectiveClassification

/-- A validated package. -/
structure ConsensusDecisionPackage extends ConsensusPackageFields where
  validated : toConsensusPackageFields.validate = .ok ()

/-- The items given to a package must be distinct and covered by it. -/
def checkPackageItems (effective : DataClassification) (items : List ConsensusItem) :
    Except ConsensusError Unit := do
  rejectIf (¬ (items.map (·.itemId)).Nodup) ⟨.duplicate, "duplicate package item"⟩
  checkEach (fun item =>
    requireConsensusClassification effective item.effectiveClassification) items

/-- Package a decision with the items it names. -/
def createConsensusDecisionPackage (specification : ConsensusAssessmentSpecification)
    (candidates : List ConsensusCandidate)
    (conflictGroups reviewRequirements : List ConsensusItem) (decision : ConsensusDecisionRecord)
    (packageId : UUID) (effectiveClassification : DataClassification) :
    Except ConsensusError ConsensusDecisionPackage := do
  let candidates := sortedBy (·.candidateId) candidates
  let conflictGroups := sortedBy (·.itemId) conflictGroups
  let reviewRequirements := sortedBy (·.itemId) reviewRequirements
  checkPackageItems effectiveClassification (candidates.map (·.item))
  checkPackageItems effectiveClassification conflictGroups
  checkPackageItems effectiveClassification reviewRequirements
  requireConsensusClassification effectiveClassification decision.effectiveClassification
  rejectIf (¬ decision.candidateIds ⊆ candidates.map (·.candidateId))
    ⟨.package, "candidate reference does not resolve"⟩
  rejectIf (¬ decision.conflictGroupIds ⊆ conflictGroups.map (·.itemId))
    ⟨.package, "conflict reference does not resolve"⟩
  rejectIf (¬ decision.reviewRequirementIds ⊆ reviewRequirements.map (·.itemId))
    ⟨.package, "review reference does not resolve"⟩
  let fields : ConsensusPackageFields := {
    packageId := packageId
    assessmentSpecification := specification
    candidates := candidates
    conflictGroups := conflictGroups
    reviewRequirements := reviewRequirements
    decision := decision
    effectiveClassification := effectiveClassification }
  buildChecked fields.validate fun valid => ⟨fields, valid⟩

end PolicyOS.CrossValidation
