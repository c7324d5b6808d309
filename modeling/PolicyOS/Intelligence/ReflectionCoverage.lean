import Mathlib.Data.List.Range
import Mathlib.Data.String.Lemmas
import PolicyOS.Intelligence.ReviewSoundness

/-!
# Coverage of a reflection

Every structural error and every grounding issue becomes one finding with an identifier of its
own, and every finding one instruction. Each validation bounds its own issues, and the findings
of both together are bounded once more.
-/

namespace PolicyOS.Intelligence

open Foundation

variable {request : ReflectionRequest} {context : ReflectionContext} {result : ReflectionResult}

/-! ## The identifiers of findings -/

/-- The number that digits up to a dot write, after a prefix of eight characters. -/
def numberOf (findingId : String) : Nat :=
  Nat.ofDigitChars 10 ((findingId.toList.drop 8).takeWhile (· ≠ '.')) 0

theorem toList_fourDigits (index : Nat) :
    (fourDigits index).toList =
      List.replicate (4 - (Nat.toDigits 10 index).length) '0' ++ Nat.toDigits 10 index := by
  simp [fourDigits, String.leftpad, List.leftpad, toString, Nat.repr]

/-- The number of a finding is the index it is made at. -/
theorem numberOf_findingId (index : Nat) (code : String) :
    numberOf ("finding." ++ fourDigits index ++ "." ++ code) = index := by
  have digits : ∀ char ∈ (fourDigits index).toList, (char ≠ '.' : Bool) = true := by
    intro char isChar
    rw [toList_fourDigits, List.mem_append] at isChar
    rcases isChar with padding | isDigit
    · rw [List.eq_of_mem_replicate padding]
      decide
    · have digit := Nat.isDigit_of_mem_toDigits (by decide) (by decide) isDigit
      refine decide_eq_true ?_
      rintro rfl
      exact absurd digit (by decide)
  have written : ("finding." ++ fourDigits index ++ "." ++ code).toList.drop 8 =
      (fourDigits index).toList ++ '.' :: code.toList := by
    simp [String.toList_append]
  rw [numberOf, written, List.takeWhile_append_of_pos digits, List.takeWhile_cons_of_neg (by simp),
    List.append_nil, toList_fourDigits, Nat.ofDigitChars_append, Nat.ofDigitChars_replicate_zero,
    Nat.mul_zero, Nat.ofDigitChars_ten_toDigits]

/-- The findings are numbered as they are made. -/
theorem numbers_of_made :
    (madeFindings request).map (fun finding => numberOf finding.findingId) =
      List.range (madeFindings request).length := by
  have structural : ∀ index issue, numberOf (structuralFinding index issue).findingId = index :=
    fun index _ => numberOf_findingId index _
  have grounding : ∀ index issue, numberOf (groundingFinding index issue).findingId = index :=
    fun index _ => numberOf_findingId index _
  refine List.ext_getElem (by simp) fun index within _ => ?_
  rw [List.length_map] at within
  simp only [List.getElem_map, List.getElem_range, madeFindings, List.getElem_append,
    List.getElem_mapIdx]
  split
  · exact structural _ _
  · rename_i later
    rw [grounding]
    simp only [List.length_mapIdx] at later ⊢
    omega

theorem distinct_findingIds : ((madeFindings request).map (·.findingId)).Nodup := by
  refine List.Nodup.of_map numberOf ?_
  rw [List.map_map]
  exact numbers_of_made ▸ List.nodup_range

/-! ## Covered issues -/

/-- What a finding says about its issue. -/
def ReflectionFinding.about (finding : ReflectionFinding) :
    List String × Option String × Option String × Option String :=
  (finding.sourceIssueCodes, finding.claimId, finding.sectionId, finding.citationId)

/-- The errors of the structural validation. -/
def structuralErrors (request : ReflectionRequest) : List NarrativeValidationIssue :=
  request.structuralValidation.issues.filter (·.severity = .error)

/-- What the findings must be about: every structural error and every grounding issue. -/
def reviewedIssues (request : ReflectionRequest) :
    List (List String × Option String × Option String × Option String) :=
  (structuralErrors request).map
      (fun issue => ([issue.code], issue.claimId, issue.sectionId, issue.citationId)) ++
    request.groundingValidation.issues.map fun issue =>
      ([issue.code.value], issue.claimId, issue.sectionId, issue.citationId)

/-- A result whose findings are one for every issue, with identifiers of their own and one
instruction each. -/
structure CoversIssues (request : ReflectionRequest) (result : ReflectionResult) : Prop where
  covered : (result.findings.map (·.about)).Perm (reviewedIssues request)
  distinct : (result.findings.map (·.findingId)).Nodup
  instructed : result.revisionPlan.instructions.map (·.sourceFindingIds) =
    result.findings.map fun finding => [finding.findingId]

theorem map_mapIdx_eq_map {α β γ : Type} {make : Nat → α → β} {read : β → γ} {own : α → γ}
    (same : ∀ index item, read (make index item) = own item) (items : List α) :
    (items.mapIdx make).map read = items.map own :=
  List.ext_getElem (by simp) fun index _ _ => by simp [same]

theorem about_of_made : (madeFindings request).map (·.about) = reviewedIssues request := by
  have structural : ∀ index (issue : NarrativeValidationIssue),
      (structuralFinding index issue).about =
        ([issue.code], issue.claimId, issue.sectionId, issue.citationId) := fun _ _ => rfl
  have grounding : ∀ index (issue : GroundingIssue), (groundingFinding index issue).about =
      ([issue.code.value], issue.claimId, issue.sectionId, issue.citationId) := fun _ _ => rfl
  rw [madeFindings, reviewedIssues, structuralErrors, List.map_append,
    map_mapIdx_eq_map structural, map_mapIdx_eq_map fun _ => grounding _]

/-- Whatever a review gives covers the issues. -/
theorem coversIssues_of_reflect
    (reflected : reflectDeterministically request context = .ok result) :
    CoversIssues request result := by
  simp only [reflectDeterministically, bind_eq_ok_iff, exists_unit_iff, pure_eq_ok_iff] at reflected
  obtain ⟨-, -, rfl⟩ := reflected
  have sorted : (sortedBy ReflectionFinding.order (madeFindings request)).Perm
      (madeFindings request) := perm_sortedBy
  refine ⟨about_of_made ▸ sorted.map _, (sorted.map _).nodup_iff.mpr distinct_findingIds, ?_⟩
  have instruction : ∀ chosen index (finding : ReflectionFinding),
      (revisionInstruction chosen index finding).sourceFindingIds = [finding.findingId] :=
    fun _ _ _ => rfl
  exact map_mapIdx_eq_map (instruction _) _

theorem accepted_reflect_iff (matching : validateReflectionIdentity request context = .ok ()) :
    Accepted (reflectDeterministically request context) ↔
      (structuralErrors request).length + request.groundingValidation.issues.length ≤
        maxFindings := by
  have made : (madeFindings request).length =
      (structuralErrors request).length + request.groundingValidation.issues.length := by
    simp [madeFindings, structuralErrors]
  simp only [Accepted, reflectDeterministically, bind_eq_ok_iff, exists_unit_iff, matching,
    rejectIf_eq_ok_iff, length_sortedBy, gt_iff_lt, not_lt, true_and, pure_eq_ok_iff,
    exists_and_left, exists_eq', and_true, made]

/-- A matching review gives a result that covers every issue exactly if the structural errors and
the grounding issues together are not more than findings may be. -/
theorem coversIssues_iff (request : ReflectionRequest) (context : ReflectionContext)
    (matching : validateReflectionIdentity request context = .ok ()) :
    (∃ result, reflectDeterministically request context = .ok result ∧
      CoversIssues request result) ↔
      (structuralErrors request).length + request.groundingValidation.issues.length ≤
        maxFindings := by
  rw [← accepted_reflect_iff matching]
  exact ⟨fun ⟨result, reflected, _⟩ => ⟨result, reflected⟩, fun ⟨result, reflected⟩ =>
    ⟨result, reflected, coversIssues_of_reflect reflected⟩⟩

/-- The review of the draft of one claim covers its issues. -/
theorem coversIssues_review :
    ∃ result, reflectDeterministically Sample.reflectionRequest Sample.reflectionContext =
        .ok result ∧ CoversIssues Sample.reflectionRequest result :=
  (coversIssues_iff Sample.reflectionRequest Sample.reflectionContext (by decide +kernel)).mpr
    (by decide +kernel)

/-- Every unknown reference of a claim is a structural issue. -/
theorem unknownEvidence_collected {narrative : NarrativeRequest} {source : NarrativeSourceBundle}
    {plan : List NarrativeSectionPlan} {draft : NarrativeDraft} {claim : NarrativeClaim}
    (isClaim : claim ∈ draft.claims) {unread : String}
    (referred : unread ∈ claim.supportingEvidenceIds)
    (unknown : unread ∉ source.allowedEvidenceIds) :
    narrativeIssue "unknown_evidence" "Claim references unknown evidence" none (some claim.claimId)
      none (some unread) ∈ collectedIssues narrative source plan draft := by
  have own : narrativeIssue "unknown_evidence" "Claim references unknown evidence" none
      (some claim.claimId) none (some unread) ∈ claimIssues narrative source plan draft claim := by
    simp only [claimIssues, List.flatten_cons, List.mem_append, List.mem_flatMap]
    refine .inr (.inr (.inr (.inr (.inr (.inl ⟨unread, referred, ?_⟩)))))
    simp [issueIf, unknown]
  simp only [collectedIssues, List.flatten_cons, List.mem_append, List.mem_flatMap]
  exact .inr (.inr (.inr (.inl ⟨claim, isClaim, own⟩)))

/-- Every unknown reference of a claim is an issue of its grounding. -/
theorem unknownEvidence_declared {request : GroundingValidationRequest}
    {disclosures : List (DisclosureAssessment × List GroundingIssue)} {claim : NarrativeClaim}
    (isClaim : claim ∈ request.draft.claims) {unread : String}
    (referred : unread ∈ claim.supportingEvidenceIds)
    (unknown : unread ∉ request.sourceBundle.allowedEvidenceIds) :
    { code := .unknownEvidenceReference
      assessment := .unsupported
      safeMessage := "Claim references unknown evidence"
      claimId := some claim.claimId
      evidenceId := some unread } ∈ declaredIssues request disclosures := by
  have own : unread ∈ unknownReferences claim.supportingEvidenceIds
      request.sourceBundle.allowedEvidenceIds :=
    mem_sortedSet.mpr (List.mem_filter.mpr ⟨referred, decide_eq_true unknown⟩)
  refine List.mem_append_left _ (List.mem_append_left _ (List.mem_flatMap.mpr ⟨claim, isClaim, ?_⟩))
  exact List.mem_append_left _ (List.mem_append_left _ (List.mem_append_left _
    (List.mem_map_of_mem own)))

namespace Sample

/-- Identifiers of sources that were never read. -/
def unknownIds : List String :=
  (List.range 101).map fun index => String.ofList (List.replicate (index + 3) 'a')

theorem unknownIds_nodup : unknownIds.Nodup := by
  refine List.Nodup.map (fun first second same => ?_) List.nodup_range
  have lengths := congrArg (fun text : String => text.toList.length) same
  simpa using lengths

theorem unknownIds_unread : ∀ unread ∈ unknownIds, unread ∉ reviewBundle.allowedEvidenceIds := by
  intro unread isUnread
  obtain ⟨index, -, rfl⟩ := List.mem_map.mp isUnread
  intro allowed
  have letters := congrArg String.toList (List.mem_singleton.mp allowed)
  rw [String.toList_ofList, List.replicate_succ] at letters
  exact absurd (List.cons.inj letters).1 (by decide)

/-- A draft of a claim that refers to all of them. -/
def unknownDraft : NarrativeDraft :=
  { reviewDraft with
    claims := [{ reviewClaim with supportingEvidenceIds := unknownIds }]
    boundedClaims := by decide
    distinctClaims := by decide }

/-- The structural validation of this draft. -/
def unknownStructure : NarrativeValidationResult :=
  givenValue (validateNarrativeDraft reviewRequest reviewBundle reviewPlan unknownDraft)
    (by decide +kernel)

theorem unknownStructure_validated :
    validateNarrativeDraft reviewRequest reviewBundle reviewPlan unknownDraft =
      .ok unknownStructure := eq_ok_givenValue (by decide +kernel)

/-- The request to ground it. -/
def unknownGroundingRequest : GroundingValidationRequest where
  validationId := 6
  narrativeRequest := reviewRequest
  policy := groundingRequest.policy
  sourceBundle := reviewBundle
  draft := unknownDraft
  generationOutcome := { generationId := 7, status := .succeeded, draft := some unknownDraft }
  validationMode := .deterministicOnly
  issuedAt := 2
  deadline := 9
  deadlineFollows := groundingRequest.deadlineFollows
  samePolicy := groundingRequest.samePolicy
  validSource := groundingRequest.validSource
  generated := rfl
  sameDraft := rfl

/-- Its grounding. -/
def unknownGrounding : GroundingValidationResult :=
  givenValue (validateGrounding none ⟨4, 5⟩ unknownGroundingRequest groundingContext)
    (by decide +kernel)

theorem unknownGrounding_validated :
    validateGrounding none ⟨4, 5⟩ unknownGroundingRequest groundingContext =
      .ok unknownGrounding := eq_ok_givenValue (by decide +kernel)

/-- The request to reflect on both. -/
def unknownRequest : ReflectionRequest where
  reflectionId := 8
  narrativeRequest := reviewRequest
  policy := groundingRequest.policy
  sourceBundle := reviewBundle
  draft := unknownDraft
  structuralValidation := unknownStructure
  groundingValidation := unknownGrounding
  issuedAt := 6
  deadline := 9
  deadlineFollows := reflectionRequest.deadlineFollows
  samePolicy := groundingRequest.samePolicy
  validSource := groundingRequest.validSource
  sameIdentities := by decide +kernel

/-- The structural validation has an error for every identifier. -/
theorem unknownStructure_errors : 101 ≤ (structuralErrors unknownRequest).length := by
  have validated := unknownStructure_validated
  have reported : unknownStructure.issues =
      boundedIssues (collectedIssues reviewRequest reviewBundle reviewPlan unknownDraft) := by
    simp only [validateNarrativeDraft, bind_eq_ok_iff, exists_unit_iff, pure_eq_ok_iff] at validated
    rw [← validated.2]
  have errors : structuralErrors unknownRequest = unknownStructure.issues := by
    refine List.filter_eq_self.mpr fun issue isIssue => decide_eq_true ?_
    change issue ∈ unknownStructure.issues at isIssue
    rw [reported] at isIssue
    exact AllErrors.bounded allErrors_collected issue isIssue
  have keys := @le_length_lastByKey _ _ _ NarrativeValidationIssue.key
    (collectedIssues reviewRequest reviewBundle reviewPlan unknownDraft)
    (unknownIds.map fun unread => ["unknown_evidence", "error", "", "signed", "", unread])
    (unknownIds_nodup.map fun first second same => by simpa using same) (by
      rintro _ isKey
      obtain ⟨unread, isUnread, rfl⟩ := List.mem_map.mp isKey
      exact ⟨_, unknownEvidence_collected List.mem_cons_self isUnread
        (unknownIds_unread unread isUnread), rfl⟩)
  rw [List.length_map] at keys
  have count : unknownIds.length = 101 := by simp [unknownIds]
  rw [errors, reported, boundedIssues, length_capped (by decide), length_sortedBy]
  simp only [maxValidationIssues]
  omega

/-- The grounding has an issue for every identifier. -/
theorem unknownGrounding_issues : 101 ≤ unknownRequest.groundingValidation.issues.length := by
  have validated := unknownGrounding_validated
  obtain ⟨disclosures, reported⟩ : ∃ disclosures, unknownGrounding.issues =
      boundedGroundingIssues (declaredIssues unknownGroundingRequest disclosures) := by
    simp only [validateGrounding, bind_eq_ok_iff] at validated
    obtain ⟨deterministic, declared, ended⟩ := validated
    obtain ⟨disclosures, -, byDraft⟩ := declaredBy_of_validate declared
    refine ⟨disclosures, ?_⟩
    have onlyDeclared : unknownGroundingRequest.validationMode = .deterministicOnly := rfl
    rw [if_pos onlyDeclared, pure_eq_ok_iff] at ended
    rw [← ended]
    exact byDraft.issues
  have keys := @le_length_lastByKey _ _ _ GroundingIssue.key
    (declaredIssues unknownGroundingRequest disclosures)
    (unknownIds.map fun unread => ["unknown_evidence_reference", "signed", "", unread, "", ""])
    (unknownIds_nodup.map fun first second same => by simpa using same) (by
      rintro _ isKey
      obtain ⟨unread, isUnread, rfl⟩ := List.mem_map.mp isKey
      exact ⟨_, @unknownEvidence_declared unknownGroundingRequest _ _ List.mem_cons_self _
        isUnread (unknownIds_unread unread isUnread), rfl⟩)
  rw [List.length_map] at keys
  have count : unknownIds.length = 101 := by simp [unknownIds]
  change 101 ≤ unknownGrounding.issues.length
  rw [reported, boundedGroundingIssues, length_capped (by decide), length_sortedBy]
  simp only [maxValidationIssues]
  omega

end Sample

/-- The review of a draft with more than a hundred unknown references fails, although each
validation is within its own limit. -/
theorem unknown_not_reflected :
    validateNarrativeDraft Sample.reviewRequest Sample.reviewBundle Sample.reviewPlan
        Sample.unknownDraft = .ok Sample.unknownRequest.structuralValidation ∧
      validateGrounding none ⟨4, 5⟩ Sample.unknownGroundingRequest Sample.groundingContext =
        .ok Sample.unknownRequest.groundingValidation ∧
      validateReflectionIdentity Sample.unknownRequest Sample.reflectionContext = .ok () ∧
      ¬ ∃ result, reflectDeterministically Sample.unknownRequest Sample.reflectionContext =
          .ok result ∧ CoversIssues Sample.unknownRequest result := by
  have matching : validateReflectionIdentity Sample.unknownRequest Sample.reflectionContext =
      .ok () := by decide +kernel
  refine ⟨Sample.unknownStructure_validated, Sample.unknownGrounding_validated, matching, ?_⟩
  rintro ⟨result, reflected, -⟩
  have few := (accepted_reflect_iff matching).mp ⟨result, reflected⟩
  have structural := Sample.unknownStructure_errors
  have grounding := Sample.unknownGrounding_issues
  simp only [maxFindings] at few
  omega

end PolicyOS.Intelligence
