import PolicyOS.Domain.Identifiers
import PolicyOS.Foundation.Checked
import PolicyOS.Foundation.SortedBy
import Mathlib.Data.Finset.Insert

/-!
# Claim comparisons

A comparison of two claims records a relation between them and names the evidence links that
support it or conflict with it. The links are looked up in an evidence set, and the records of a
plan are collected by the comparisons expected of it.
-/

namespace PolicyOS.CrossValidation

open Foundation

/-! ## Vocabulary -/

/-- The exception classes of cross validation that comparisons raise, and those of a contract that
is not valid. -/
inductive CrossValidationErrorKind
  | value | comparison | comparisonDuplicate | comparisonMismatch | classification
  deriving DecidableEq, Repr

/-- A cross-validation error with its message. -/
structure CrossValidationError where
  kind : CrossValidationErrorKind
  message : String
  deriving DecidableEq, Repr

/-- How one claim relates to another. -/
inductive ClaimRelation
  | equivalent | supporting | partiallySupporting | contradictory | partiallyContradictory
  | nonOverlapping | duplicative | refining | qualifying | insufficientInformation | unknown
  deriving DecidableEq, Repr

/-- The place of a relation in the alphabet, by which relations are sorted. -/
def ClaimRelation.position : ClaimRelation → Nat
  | .contradictory => 0
  | .duplicative => 1
  | .equivalent => 2
  | .insufficientInformation => 3
  | .nonOverlapping => 4
  | .partiallyContradictory => 5
  | .partiallySupporting => 6
  | .qualifying => 7
  | .refining => 8
  | .supporting => 9
  | .unknown => 10

/-- How much of a collection has been compared. -/
inductive ComparisonCollectionStatus
  | empty | partial_ | complete
  deriving DecidableEq, Repr

/-- The most comparisons of a collection, and the most identifiers in a list of one. -/
def maxComparisons : Nat := 500

/-- The effective classification must cover what is included. -/
def requireComparisonClassification (effective included : DataClassification) :
    Except CrossValidationError Unit :=
  rejectIf (¬ notLower effective included)
    ⟨.classification, "effective comparison classification is too low"⟩

/-- Identifiers must be listed once each, in order, and not be too many. -/
def canonicalIds (values : List UUID) (name : String) : Except CrossValidationError Unit :=
  rejectIf (maxComparisons < values.length ∨ ¬ canonical values)
    ⟨.value, name ++ " must be canonical, unique, and bounded"⟩

/-! ## Claims and evidence -/

/-- What a comparison reads of a plan. -/
structure CrossValidationPlan where
  planId : UUID
  tenantId : UUID
  deriving DecidableEq

/-- What a comparison reads of a claim. -/
structure ModelClaim where
  claimId : UUID
  planId : UUID
  runId : UUID
  classification : DataClassification
  deriving DecidableEq

/-- A link from a claim to its evidence. -/
structure ClaimEvidenceLink where
  claimEvidenceLinkId : UUID
  claimId : UUID
  evidenceReferenceId : UUID
  deriving DecidableEq

/-- The evidence linked to the claims of a plan. -/
structure EvidenceSetFields where
  planId : UUID
  classification : DataClassification
  claimIds : List UUID
  evidenceReferenceIds : List UUID
  links : List ClaimEvidenceLink
  deriving DecidableEq

/-- The validators of an evidence set. -/
def EvidenceSetFields.validate (fields : EvidenceSetFields) :
    Except CrossValidationError Unit := do
  rejectIf (¬ canonical fields.claimIds)
    ⟨.value, "evidence-set claim identities must be canonical"⟩
  rejectIf (¬ canonical fields.evidenceReferenceIds)
    ⟨.value, "evidence references must be canonical and unique"⟩
  rejectIf (¬ canonical (fields.links.map (·.claimEvidenceLinkId)))
    ⟨.value, "evidence links must be canonical and unique"⟩
  checkEach (fun link => do
    rejectIf (link.claimId ∉ fields.claimIds)
      ⟨.value, "evidence link references unknown claim"⟩
    rejectIf (link.evidenceReferenceId ∉ fields.evidenceReferenceIds)
      ⟨.value, "evidence link references unknown evidence"⟩) fields.links

/-- A validated evidence set. -/
structure EvidenceReferenceSet extends EvidenceSetFields where
  validated : toEvidenceSetFields.validate = .ok ()

/-! ## Comparisons -/

/-- What is to be compared. -/
structure ClaimComparisonSpecification where
  comparisonId : UUID
  planId : UUID
  leftClaimId : UUID
  rightClaimId : UUID
  requestedRelations : List ClaimRelation
  effectiveClassification : DataClassification
  canonicalRelations : requestedRelations ≠ [] ∧
    (requestedRelations.map (·.position)).Pairwise (· < ·) := by decide
  distinctClaims : leftClaimId ≠ rightClaimId := by decide
  orientation : leftClaimId ≤ rightClaimId := by decide

/-- What is recorded of a comparison. -/
structure ComparisonRecordFields where
  comparisonRecordId : UUID
  comparisonId : UUID
  planId : UUID
  leftClaimId : UUID
  rightClaimId : UUID
  leftRunId : UUID
  rightRunId : UUID
  relation : ClaimRelation
  supportingEvidenceLinkIds : List UUID := []
  conflictingEvidenceLinkIds : List UUID := []
  missingEvidenceForClaimIds : List UUID := []
  effectiveClassification : DataClassification
  deriving DecidableEq

/-- The validators of a comparison record. -/
def ComparisonRecordFields.validate (fields : ComparisonRecordFields) :
    Except CrossValidationError Unit := do
  canonicalIds fields.supportingEvidenceLinkIds "supporting_evidence_link_ids"
  canonicalIds fields.conflictingEvidenceLinkIds "conflicting_evidence_link_ids"
  canonicalIds fields.missingEvidenceForClaimIds "missing_evidence_for_claim_ids"

/-- A validated comparison record. -/
structure ClaimComparisonRecord extends ComparisonRecordFields where
  validated : toComparisonRecordFields.validate = .ok ()

/-- What an assessor says of a comparison. -/
structure ComparisonAssessment where
  comparisonRecordId : UUID
  relation : ClaimRelation
  supportingEvidenceLinkIds : List UUID := []
  conflictingEvidenceLinkIds : List UUID := []
  missingEvidenceForClaimIds : List UUID := []
  deriving DecidableEq

/-- The links an assessor names. -/
def ComparisonAssessment.namedLinks (assessment : ComparisonAssessment) : List UUID :=
  assessment.supportingEvidenceLinkIds ++ assessment.conflictingEvidenceLinkIds

/-- The given claim of an identifier, where one of them has it. -/
def claimNamed (leftClaim rightClaim : ModelClaim) (claimId : UUID) : ModelClaim :=
  if rightClaim.claimId = claimId then rightClaim else leftClaim

/-- Record how two claims compare. -/
def createClaimComparisonRecord (specification : ClaimComparisonSpecification)
    (leftClaim rightClaim : ModelClaim) (evidenceSet : EvidenceReferenceSet)
    (assessment : ComparisonAssessment) : Except CrossValidationError ClaimComparisonRecord := do
  rejectIf (({leftClaim.claimId, rightClaim.claimId} : Finset UUID) ≠
      {specification.leftClaimId, specification.rightClaimId})
    ⟨.comparisonMismatch, "claims do not match comparison specification"⟩
  rejectIf (leftClaim.planId ≠ specification.planId ∨ rightClaim.planId ≠ specification.planId)
    ⟨.comparisonMismatch, "comparison mixes plans"⟩
  rejectIf (assessment.relation ∉ specification.requestedRelations)
    ⟨.comparison, "relation was not requested"⟩
  rejectIf (∃ linkId ∈ assessment.namedLinks,
      linkId ∉ evidenceSet.links.map (·.claimEvidenceLinkId))
    ⟨.comparisonMismatch, "comparison references unknown evidence link"⟩
  rejectIf (∃ claimId ∈ assessment.missingEvidenceForClaimIds,
      claimId ≠ leftClaim.claimId ∧ claimId ≠ rightClaim.claimId)
    ⟨.comparisonMismatch, "comparison references unknown missing-evidence claim"⟩
  requireComparisonClassification specification.effectiveClassification leftClaim.classification
  requireComparisonClassification specification.effectiveClassification rightClaim.classification
  requireComparisonClassification specification.effectiveClassification evidenceSet.classification
  let left := claimNamed leftClaim rightClaim specification.leftClaimId
  let right := claimNamed leftClaim rightClaim specification.rightClaimId
  let fields : ComparisonRecordFields := {
    comparisonRecordId := assessment.comparisonRecordId
    comparisonId := specification.comparisonId
    planId := specification.planId
    leftClaimId := left.claimId
    rightClaimId := right.claimId
    leftRunId := left.runId
    rightRunId := right.runId
    relation := assessment.relation
    supportingEvidenceLinkIds := assessment.supportingEvidenceLinkIds
    conflictingEvidenceLinkIds := assessment.conflictingEvidenceLinkIds
    missingEvidenceForClaimIds := assessment.missingEvidenceForClaimIds
    effectiveClassification := specification.effectiveClassification }
  buildChecked fields.validate fun valid => ⟨fields, valid⟩

/-! ## Collections -/

/-- How many records have a relation. -/
structure ClaimRelationCount where
  relation : ClaimRelation
  count : Nat
  deriving DecidableEq

/-- The relations of some records, sorted, with how many have each. -/
def relationCountsOf (records : List ClaimComparisonRecord) : List ClaimRelationCount :=
  (sortedBy (·.position) (records.map (·.relation)).dedup).map fun relation =>
    ⟨relation, (records.map (·.relation)).count relation⟩

/-- The status of a collection by what is there and what is missing. -/
def collectionStatus (completed missing : Nat) : ComparisonCollectionStatus :=
  if completed = 0 then .empty else if missing = 0 then .complete else .partial_

/-- What is collected of the comparisons of a plan. -/
structure ComparisonCollectionFields where
  collectionId : UUID
  planId : UUID
  tenantId : UUID
  expectedComparisonIds : List UUID
  comparisonRecords : List ClaimComparisonRecord
  status : ComparisonCollectionStatus
  requestedCount : Nat
  completedCount : Nat
  missingCount : Nat
  relationCounts : List ClaimRelationCount

/-- The validators of a collection. -/
def ComparisonCollectionFields.validate (fields : ComparisonCollectionFields) :
    Except CrossValidationError Unit := do
  let recordIds := fields.comparisonRecords.map (·.comparisonId)
  let missing := fields.expectedComparisonIds.length - fields.comparisonRecords.length
  rejectIf (maxComparisons < fields.expectedComparisonIds.length ∨
      maxComparisons < fields.comparisonRecords.length)
    ⟨.value, "comparison collection is too long"⟩
  rejectIf (¬ canonical fields.expectedComparisonIds)
    ⟨.value, "expected comparisons must be canonical and unique"⟩
  rejectIf (¬ canonical recordIds)
    ⟨.value, "comparison records must be canonical and unique"⟩
  rejectIf (∃ recordId ∈ recordIds, recordId ∉ fields.expectedComparisonIds)
    ⟨.value, "collection contains unexpected comparison"⟩
  rejectIf (fields.relationCounts ≠ relationCountsOf fields.comparisonRecords)
    ⟨.value, "relation counts do not match records"⟩
  rejectIf ((fields.requestedCount, fields.completedCount, fields.missingCount) ≠
      (fields.expectedComparisonIds.length, fields.comparisonRecords.length, missing))
    ⟨.value, "comparison collection counts do not match"⟩
  rejectIf (fields.status ≠ collectionStatus fields.comparisonRecords.length missing)
    ⟨.value, "comparison collection status does not match"⟩

/-- A validated collection. -/
structure ClaimComparisonCollection extends ComparisonCollectionFields where
  validated : toComparisonCollectionFields.validate = .ok ()

/-- Collect the records of the comparisons that are expected of a plan. -/
def createClaimComparisonCollection (plan : CrossValidationPlan)
    (expectedComparisonIds : List UUID) (records : List ClaimComparisonRecord)
    (collectionId : UUID) : Except CrossValidationError ClaimComparisonCollection := do
  let expected := sortedBy id expectedComparisonIds
  rejectIf (¬ expected.Nodup)
    ⟨.comparisonDuplicate, "duplicate expected comparison identity"⟩
  let ordered := sortedBy (·.comparisonId) records
  rejectIf (¬ (ordered.map (·.comparisonId)).Nodup)
    ⟨.comparisonDuplicate, "duplicate comparison record"⟩
  rejectIf (∃ record ∈ ordered, record.comparisonId ∉ expected)
    ⟨.comparisonMismatch, "record was not expected by collection"⟩
  rejectIf (∃ record ∈ ordered, record.planId ≠ plan.planId)
    ⟨.comparisonMismatch, "collection mixes plans"⟩
  let missing := expected.length - ordered.length
  let fields : ComparisonCollectionFields := {
    collectionId := collectionId
    planId := plan.planId
    tenantId := plan.tenantId
    expectedComparisonIds := expected
    comparisonRecords := ordered
    status := collectionStatus ordered.length missing
    requestedCount := expected.length
    completedCount := ordered.length
    missingCount := missing
    relationCounts := relationCountsOf ordered }
  buildChecked fields.validate fun valid => ⟨fields, valid⟩

end PolicyOS.CrossValidation
