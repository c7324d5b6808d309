import PolicyOS.CrossValidation.Consensus

/-!
# Agreed decisions

The status of a candidate, and that of a decision, is what its caller says. An agreed candidate
must be of enough runs, but the records it rests on may be of any relation, and an agreed
decision may name conflict groups or nothing at all.
-/

namespace PolicyOS.CrossValidation

open Foundation

/-- The runs of a plan that succeeded, of the claims a candidate names. -/
def CandidateRequest.succeededRuns (request : CandidateRequest) (planId : UUID) : List UUID :=
  (request.selectedClaims.filter fun claim =>
    claim.planId = planId ∧ request.Succeeded claim).map (·.runId)

/-- The requests of the candidates a decision names that are called agreed. -/
def ConsensusDecisionRecord.backing (decision : ConsensusDecisionRecord)
    (requests : List CandidateRequest) : List CandidateRequest :=
  requests.filter fun request =>
    request.candidateId ∈ decision.candidateIds ∧ request.status = .agreed

/-- The status that the records behind a decision come to. -/
def ConsensusDecisionRecord.derivedStatus (decision : ConsensusDecisionRecord)
    (specification : ConsensusAssessmentSpecification) (requests : List CandidateRequest) :
    ConsensusStatus :=
  deriveConsensusStatus ((decision.backing requests).flatMap (·.selectedRecords))
    specification.expectedComparisonIds false false

/-- An agreed decision names an agreed candidate and no conflict group; the records behind it
are compatible and come to an agreement, and the claims behind it are of enough runs. -/
structure AgreementBacked (specification : ConsensusAssessmentSpecification)
    (requests : List CandidateRequest) (package : ConsensusDecisionPackage) : Prop where
  named : ∃ candidate ∈ package.candidates,
    candidate.candidateId ∈ package.decision.candidateIds ∧ candidate.status = .agreed
  unconflicted : package.decision.conflictGroupIds = []
  compatible : ∀ request ∈ package.decision.backing requests,
    ∀ record ∈ request.selectedRecords, record.relation ∈ compatibleRelations
  derived : package.decision.derivedStatus specification requests = .agreed
  independent : specification.minimumIndependentRuns ≤
    ((package.decision.backing requests).flatMap
      (·.succeededRuns specification.planId)).dedup.length

section Packages

variable {specification : ConsensusAssessmentSpecification} {requests : List CandidateRequest}
  {candidates : List ConsensusCandidate} {conflictGroups reviewRequirements : List ConsensusItem}
  {decision : ConsensusDecisionRecord} {packageId : UUID} {effective : DataClassification}
  {package : ConsensusDecisionPackage}

/-- Records that come to an agreement are there, and each of them agrees. -/
theorem of_derive_agreed {records : List ClaimComparisonRecord} {expected : List UUID}
    {manual insufficient : Bool}
    (derived : deriveConsensusStatus records expected manual insufficient = .agreed) :
    records ≠ [] ∧ ∀ record ∈ records, record.relation ∈ compatibleRelations := by
  rw [deriveConsensusStatus] at derived
  split_ifs at derived with _ _ _ _ _ agreed
  exact ⟨fun none => agreed.1 (by rw [none, List.map_nil]),
    fun record isRecord => agreed.2 (List.mem_map_of_mem isRecord)⟩

/-- What an accepted candidate says of its request. -/
structure CandidateOf (specification : ConsensusAssessmentSpecification)
    (request : CandidateRequest) (candidate : ConsensusCandidate) : Prop where
  sameId : candidate.candidateId = request.candidateId
  sameStatus : candidate.status = request.status
  succeeded : ∀ claim ∈ request.selectedClaims,
    claim.planId = specification.planId ∧ request.Succeeded claim
  independent : request.status = .agreed →
    specification.minimumIndependentRuns ≤ request.runIds.length

theorem CandidateOf.of_create {request : CandidateRequest} {candidate : ConsensusCandidate}
    (created : createConsensusCandidate specification request = .ok candidate) :
    CandidateOf specification request candidate := by
  simp only [createConsensusCandidate, bind_eq_ok_iff, exists_unit_iff, rejectIf_eq_ok_iff,
    buildChecked_eq_ok_iff, not_exists, not_and, not_not, ne_eq, not_lt] at created
  obtain ⟨-, -, -, -, -, -, -, succeeded, lineage, -, independent, _, rfl⟩ := created
  refine ⟨rfl, rfl, fun claim isClaim => ⟨?_, succeeded claim isClaim⟩, independent⟩
  rw [lineage claim isClaim]

theorem CandidateOf.runIds_subset {request : CandidateRequest} {candidate : ConsensusCandidate}
    (created : CandidateOf specification request candidate) :
    request.runIds ⊆ request.succeededRuns specification.planId := by
  intro runId isRun
  obtain ⟨claim, isClaim, rfl⟩ := List.mem_map.mp (mem_sortedSet.mp isRun)
  exact List.mem_map_of_mem
    (List.mem_filter.mpr ⟨isClaim, decide_eq_true (created.succeeded claim isClaim)⟩)

/-- A package holds the decision and the candidates it was given. -/
theorem package_of_create
    (packaged : createConsensusDecisionPackage specification candidates conflictGroups
      reviewRequirements decision packageId effective = .ok package) :
    package.decision = decision ∧ package.candidates.Perm candidates := by
  simp only [createConsensusDecisionPackage, bind_eq_ok_iff, exists_unit_iff,
    buildChecked_eq_ok_iff] at packaged
  obtain ⟨-, -, -, -, -, -, -, _, rfl⟩ := packaged
  exact ⟨rfl, perm_sortedBy⟩

theorem AgreementBacked.of_derived
    (created : collectEach (createConsensusCandidate specification) requests = .ok candidates)
    (same : package.candidates.Perm candidates)
    (unconflicted : package.decision.conflictGroupIds = [])
    (derived : package.decision.derivedStatus specification requests = .agreed) :
    AgreementBacked specification requests package := by
  obtain ⟨some, compatible⟩ := of_derive_agreed derived
  obtain ⟨record, isRecord⟩ := List.exists_mem_of_ne_nil _ some
  obtain ⟨request, isBacking, -⟩ := List.mem_flatMap.mp isRecord
  obtain ⟨isRequest, names⟩ := List.mem_filter.mp isBacking
  obtain ⟨isNamed, agreed⟩ := of_decide_eq_true names
  obtain ⟨candidate, isCandidate, made⟩ := exists_of_collectEach created isRequest
  have ofRequest := CandidateOf.of_create made
  refine ⟨⟨candidate, same.mem_iff.mpr isCandidate, ?_, ?_⟩, unconflicted, ?_, derived, ?_⟩
  · rwa [ofRequest.sameId]
  · rwa [ofRequest.sameStatus]
  · exact fun request isBacking record isRecord =>
      compatible record (List.mem_flatMap.mpr ⟨request, isBacking, isRecord⟩)
  · -- the runs of one agreed candidate are already enough
    refine (ofRequest.independent agreed).trans ?_
    refine (List.subperm_of_subset nodup_sortedSet fun runId isRun => ?_).length_le
    exact List.mem_dedup.mpr
      (List.mem_flatMap.mpr ⟨request, isBacking, ofRequest.runIds_subset isRun⟩)

end Packages

/-- An agreed decision is backed exactly where it names no conflict group and the records that the
agreed candidates it names rest on come to an agreement. -/
theorem agreementBacked_iff (specification : ConsensusAssessmentSpecification)
    (requests : List CandidateRequest) (candidates : List ConsensusCandidate)
    (conflictGroups reviewRequirements : List ConsensusItem) (request : DecisionRequest)
    (decision : ConsensusDecisionRecord) (packageId : UUID) (effective : DataClassification)
    (package : ConsensusDecisionPackage)
    (created : collectEach (createConsensusCandidate specification) requests = .ok candidates)
    (_ : createConsensusDecisionRecord specification request = .ok decision)
    (packaged : createConsensusDecisionPackage specification candidates conflictGroups
      reviewRequirements decision packageId effective = .ok package) :
    (package.decision.status = .agreed → AgreementBacked specification requests package) ↔
      (package.decision.status = .agreed → package.decision.conflictGroupIds = [] ∧
        package.decision.derivedStatus specification requests = .agreed) := by
  refine imp_congr_right fun _ => ⟨fun backed => ⟨backed.unconflicted, backed.derived⟩, ?_⟩
  rintro ⟨unconflicted, derived⟩
  exact .of_derived created (package_of_create packaged).2 unconflicted derived

namespace ConsensusSample

/-- A specification of claims 1 and 2 of plan 9, and of one comparison. -/
def specification : ConsensusAssessmentSpecification where
  planId := 9
  tenantId := 4
  resourceId := "resource"
  registryId := 5
  registryRevision := 1
  assessmentId := 220
  comparisonCollectionId := 130
  expectedClaimIds := [1, 2]
  expectedComparisonIds := [110]
  minimumIndependentRuns := 2

/-- A claim of the plan, of a run of its own. -/
def claim (claimId : UUID) : ConsensusClaim where
  toConsensusLineage := specification.toConsensusLineage
  claimId := claimId
  runId := claimId + 20
  runResultId := claimId + 30
  modelId := "model"
  providerInstanceId := "provider"
  classification := .internal

/-- The result of the run of a claim. -/
def result (claimId : UUID) : ModelRunResult :=
  ⟨claimId + 30, claimId + 20, 9, "model", "provider", .succeeded⟩

/-- The comparison of the claims, with a relation. -/
def compared (relation : ClaimRelation) : ClaimComparisonRecord where
  comparisonRecordId := 120
  comparisonId := 110
  planId := 9
  leftClaimId := 1
  rightClaimId := 2
  leftRunId := 21
  rightRunId := 22
  relation := relation
  effectiveClassification := .internal
  validated := rfl

/-- What a candidate called agreed is made from. -/
def candidateRequest (relation : ClaimRelation) : CandidateRequest where
  claims := [claim 1, claim 2]
  comparisonRecords := [compared relation]
  runResults := [result 1, result 2]
  evidenceSet := ⟨9, 4, "resource", .internal, []⟩
  candidateId := 230
  claimIds := [1, 2]
  comparisonRecordIds := [120]
  status := .agreed
  reasonCodes := [.allRequiredComparisonsCompatible]
  effectiveClassification := .internal

/-- What the decision on it is made from. -/
def decisionRequest : DecisionRequest where
  candidates := [⟨230, 9, 220, .internal⟩]
  decisionId := 260
  status := .agreed
  candidateIds := [230]
  reasonCodes := [.allRequiredComparisonsCompatible]
  effectiveClassification := .internal

theorem created (relation : ClaimRelation) : (collectEach
    (createConsensusCandidate specification) [candidateRequest relation]).toOption.isSome := by
  cases relation <;> decide +kernel

theorem decided :
    (createConsensusDecisionRecord specification decisionRequest).toOption.isSome := by
  decide +kernel

theorem packaged (relation : ClaimRelation) : (createConsensusDecisionPackage specification
    (givenValue _ (created relation)) [] [] (givenValue _ decided) 270
    .internal).toOption.isSome := by
  cases relation <;> decide +kernel

/-- The package of claims with a relation. -/
def package (relation : ClaimRelation) : ConsensusDecisionPackage :=
  givenValue _ (packaged relation)

end ConsensusSample

/-- The package of claims found equivalent. -/
theorem agreementBacked_iff_equivalent :
    AgreementBacked ConsensusSample.specification [ConsensusSample.candidateRequest .equivalent]
      (ConsensusSample.package .equivalent) :=
  (agreementBacked_iff _ _ _ _ _ ConsensusSample.decisionRequest _ _ _ _
    (eq_ok_givenValue (ConsensusSample.created .equivalent))
    (eq_ok_givenValue ConsensusSample.decided)
    (eq_ok_givenValue (ConsensusSample.packaged .equivalent))).mpr
    (fun _ => by decide +kernel) (by decide +kernel)

/-- A package of claims found contradictory is accepted, with a decision called agreed. -/
theorem not_agreementBacked :
    (ConsensusSample.package .contradictory).decision.status = .agreed ∧
      ¬ AgreementBacked ConsensusSample.specification
        [ConsensusSample.candidateRequest .contradictory]
        (ConsensusSample.package .contradictory) := by
  refine ⟨by decide +kernel, fun backed => ?_⟩
  have derived := backed.derived
  exact absurd derived (by decide +kernel)

end PolicyOS.CrossValidation
