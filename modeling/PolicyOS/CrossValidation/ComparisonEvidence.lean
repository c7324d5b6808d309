import PolicyOS.CrossValidation.Comparison

/-!
# Evidence of a comparison

A record is given with an evidence set, and the links it names must be links of that set. Of
which claims they are links, and of which plan the set is, is not compared; nor does a
collection compare the two claims of its records, whose specifications did.
-/

namespace PolicyOS.CrossValidation

open Foundation

section Records

variable {specification : ClaimComparisonSpecification} {leftClaim rightClaim : ModelClaim}
  {evidenceSet : EvidenceReferenceSet} {assessment : ComparisonAssessment}
  {record : ClaimComparisonRecord} {plan : CrossValidationPlan} {expected : List UUID}
  {records : List ClaimComparisonRecord} {collectionId : UUID}
  {collection : ClaimComparisonCollection}

/-- The links that a record names. -/
def ClaimComparisonRecord.namedLinks (record : ClaimComparisonRecord) : List UUID :=
  record.supportingEvidenceLinkIds ++ record.conflictingEvidenceLinkIds

/-- Every link that a record names is one of its claims, in a set of its plan. -/
def EvidenceBelongs (evidenceSet : EvidenceReferenceSet) (record : ClaimComparisonRecord) : Prop :=
  ∀ linkId ∈ record.namedLinks, evidenceSet.planId = record.planId ∧
    ∃ link ∈ evidenceSet.links, link.claimEvidenceLinkId = linkId ∧
      (link.claimId = record.leftClaimId ∨ link.claimId = record.rightClaimId)

instance (evidenceSet : EvidenceReferenceSet) (record : ClaimComparisonRecord) :
    Decidable (EvidenceBelongs evidenceSet record) :=
  inferInstanceAs (Decidable (∀ _ ∈ _, _))

theorem EvidenceReferenceSet.nodup_links (evidenceSet : EvidenceReferenceSet) :
    (evidenceSet.links.map (·.claimEvidenceLinkId)).Nodup := by
  have valid := evidenceSet.validated
  simp only [EvidenceSetFields.validate, bind_eq_ok_iff, exists_unit_iff, rejectIf_eq_ok_iff,
    not_not] at valid
  exact valid.2.2.1.1

/-- Two claims that are together those of a specification are named by it. -/
theorem claimId_claimNamed {left right claimId : UUID}
    (same : ({leftClaim.claimId, rightClaim.claimId} : Finset UUID) = {left, right})
    (isOne : claimId = left ∨ claimId = right) :
    (claimNamed leftClaim rightClaim claimId).claimId = claimId := by
  have given : claimId ∈ ({leftClaim.claimId, rightClaim.claimId} : Finset UUID) := by
    rw [same]
    simpa using isOne
  rw [claimNamed]
  split
  case isTrue isRight => exact isRight
  case isFalse notRight =>
    simp only [Finset.mem_insert, Finset.mem_singleton] at given
    exact (given.resolve_right fun isRight => notRight isRight.symm).symm

/-- What an accepted record says of its specification and of the links it names. -/
structure RecordedFor (specification : ClaimComparisonSpecification)
    (evidenceSet : EvidenceReferenceSet) (assessment : ComparisonAssessment)
    (record : ClaimComparisonRecord) : Prop where
  plan : record.planId = specification.planId
  left : record.leftClaimId = specification.leftClaimId
  right : record.rightClaimId = specification.rightClaimId
  named : record.namedLinks = assessment.namedLinks
  known : ∀ linkId ∈ assessment.namedLinks,
    linkId ∈ evidenceSet.links.map (·.claimEvidenceLinkId)

theorem recordedFor_of_create
    (created : createClaimComparisonRecord specification leftClaim rightClaim evidenceSet
      assessment = .ok record) : RecordedFor specification evidenceSet assessment record := by
  simp only [createClaimComparisonRecord, bind_eq_ok_iff, exists_unit_iff, rejectIf_eq_ok_iff,
    buildChecked_eq_ok_iff, ne_eq, not_not] at created
  obtain ⟨same, -, -, known, -, -, -, -, _, rfl⟩ := created
  refine ⟨rfl, claimId_claimNamed same (.inl rfl), claimId_claimNamed same (.inr rfl), rfl, ?_⟩
  intro linkId isNamed
  by_contra missing
  exact known ⟨linkId, isNamed, missing⟩

/-- The evidence named is of the comparison exactly where no link to another claim is named, and
none at all in a set of another plan. -/
theorem RecordedFor.evidenceBelongs_iff
    (recorded : RecordedFor specification evidenceSet assessment record) :
    EvidenceBelongs evidenceSet record ↔
      (assessment.namedLinks = [] ∨ evidenceSet.planId = specification.planId) ∧
        ∀ link ∈ evidenceSet.links, link.claimEvidenceLinkId ∈ assessment.namedLinks →
          link.claimId = specification.leftClaimId ∨ link.claimId = specification.rightClaimId := by
  rw [EvidenceBelongs, recorded.named, recorded.plan, recorded.left, recorded.right]
  constructor
  · intro belongs
    refine ⟨?_, ?_⟩
    · cases isNamed : assessment.namedLinks with
      | nil => exact .inl rfl
      | cons linkId _ => exact .inr (belongs linkId (by simp [isNamed])).1
    · intro link isLink isNamed
      obtain ⟨-, other, isOther, sameId, own⟩ := belongs _ isNamed
      obtain rfl := List.inj_on_of_nodup_map evidenceSet.nodup_links isOther isLink sameId
      exact own
  · rintro ⟨samePlan, own⟩ linkId isNamed
    obtain ⟨link, isLink, rfl⟩ := List.mem_map.mp (recorded.known linkId isNamed)
    exact ⟨samePlan.resolve_left (List.ne_nil_of_mem isNamed), link, isLink, rfl,
      own link isLink isNamed⟩

theorem records_of_create
    (created : createClaimComparisonCollection plan expected records collectionId =
      .ok collection) :
    collection.comparisonRecords.Perm records ∧
      ∀ record ∈ collection.comparisonRecords, record.planId = plan.planId := by
  simp only [createClaimComparisonCollection, bind_eq_ok_iff, exists_unit_iff, rejectIf_eq_ok_iff,
    buildChecked_eq_ok_iff, ne_eq, not_not, not_exists, not_and] at created
  obtain ⟨-, -, -, samePlan, _, rfl⟩ := created
  exact ⟨perm_sortedBy, samePlan⟩

end Records

/-- The evidence a record names is of its comparison exactly where the assessor named no link to
another claim and none in a set of another plan; and the records of a collection are each of two
claims of its plan exactly where those it is given are of two claims. -/
theorem comparisonsBelong_iff (specification : ClaimComparisonSpecification)
    (leftClaim rightClaim : ModelClaim) (evidenceSet : EvidenceReferenceSet)
    (assessment : ComparisonAssessment) (record : ClaimComparisonRecord)
    (plan : CrossValidationPlan) (expected : List UUID) (records : List ClaimComparisonRecord)
    (collectionId : UUID) (collection : ClaimComparisonCollection) :
    (createClaimComparisonRecord specification leftClaim rightClaim evidenceSet assessment =
        .ok record →
      (EvidenceBelongs evidenceSet record ↔
        (assessment.namedLinks = [] ∨ evidenceSet.planId = specification.planId) ∧
          ∀ link ∈ evidenceSet.links, link.claimEvidenceLinkId ∈ assessment.namedLinks →
            link.claimId = specification.leftClaimId ∨
              link.claimId = specification.rightClaimId)) ∧
    (createClaimComparisonCollection plan expected records collectionId = .ok collection →
      ((∀ record ∈ collection.comparisonRecords,
          record.planId = plan.planId ∧ record.leftClaimId ≠ record.rightClaimId) ↔
        ∀ record ∈ records, record.leftClaimId ≠ record.rightClaimId)) := by
  refine ⟨?_, ?_⟩
  · intro created
    exact (recordedFor_of_create created).evidenceBelongs_iff
  · intro created
    obtain ⟨same, samePlan⟩ := records_of_create created
    constructor
    · exact fun distinct record isRecord => (distinct record (same.mem_iff.mpr isRecord)).2
    · exact fun distinct record isRecord =>
        ⟨samePlan record isRecord, distinct record (same.mem_iff.mp isRecord)⟩

namespace ComparisonSample

/-- A comparison of claims 1 and 2 of plan 9. -/
def specification : ClaimComparisonSpecification where
  comparisonId := 110
  planId := 9
  leftClaimId := 1
  rightClaimId := 2
  requestedRelations := [.equivalent]
  effectiveClassification := .internal

/-- A claim of the plan. -/
def claim (claimId : UUID) : ModelClaim := ⟨claimId, 9, claimId + 20, .public⟩

/-- A set of another plan whose links are to claims 1 and 3. -/
def otherSet : EvidenceReferenceSet where
  planId := 8
  classification := .public
  claimIds := [1, 3]
  evidenceReferenceIds := [40]
  links := [⟨50, 1, 40⟩, ⟨51, 3, 40⟩]
  validated := by decide

/-- A set of the plan with the same links. -/
def ownSet : EvidenceReferenceSet where
  planId := 9
  classification := .public
  claimIds := [1, 3]
  evidenceReferenceIds := [40]
  links := [⟨50, 1, 40⟩, ⟨51, 3, 40⟩]
  validated := by decide

/-- An assessment that names a link. -/
def assessment (linkId : UUID) : ComparisonAssessment where
  comparisonRecordId := 120
  relation := .equivalent
  supportingEvidenceLinkIds := [linkId]

theorem own_recorded : (createClaimComparisonRecord specification (claim 1) (claim 2) ownSet
    (assessment 50)).toOption.isSome := by decide

/-- The record that names it. -/
def ownRecord : ClaimComparisonRecord := givenValue _ own_recorded

theorem own_collected : (createClaimComparisonCollection ⟨9, 4⟩ [110] [ownRecord]
    130).toOption.isSome := by decide

theorem other_recorded : (createClaimComparisonRecord specification (claim 1) (claim 2) otherSet
    (assessment 51)).toOption.isSome := by decide

/-- A record of a claim with itself. -/
def selfRecord : ClaimComparisonRecord where
  comparisonRecordId := 120
  comparisonId := 110
  planId := 9
  leftClaimId := 1
  rightClaimId := 1
  leftRunId := 21
  rightRunId := 21
  relation := .equivalent
  effectiveClassification := .public
  validated := by decide

theorem self_collected : (createClaimComparisonCollection ⟨9, 4⟩ [110] [selfRecord]
    130).toOption.isSome := by decide

end ComparisonSample

/-- The record of an own link, and the collection of it. -/
theorem comparisonsBelong_iff_own :
    EvidenceBelongs ComparisonSample.ownSet ComparisonSample.ownRecord ∧
      ∀ record ∈ (givenValue _ ComparisonSample.own_collected).comparisonRecords,
        record.planId = 9 ∧ record.leftClaimId ≠ record.rightClaimId :=
  have both := comparisonsBelong_iff _ _ _ _ _ ComparisonSample.ownRecord _ _ _ _
    (givenValue _ ComparisonSample.own_collected)
  ⟨(both.1 (eq_ok_givenValue ComparisonSample.own_recorded)).mpr (by decide),
    (both.2 (eq_ok_givenValue ComparisonSample.own_collected)).mpr (by decide)⟩

/-- A link to a third claim, in a set of another plan, is recorded as evidence, and a comparison
of a claim with itself is collected. -/
theorem foreign_link_recorded :
    ¬ EvidenceBelongs ComparisonSample.otherSet
        (givenValue _ ComparisonSample.other_recorded) ∧
      ∃ record ∈ (givenValue _ ComparisonSample.self_collected).comparisonRecords,
        record.leftClaimId = record.rightClaimId := by
  decide

end PolicyOS.CrossValidation
