import PolicyOS.Intelligence.GroundingSoundness

/-!
# Disclosures of a grounding

The declared grounding owes a disclosure for every warning and every conflict of its source, and
for every step that did not succeed where its policy includes them. A step without a typed error
that the draft does not name leaves the flag of its disclosure without a value, and the whole
validation fails.
-/

namespace PolicyOS.Intelligence

open Foundation Execution

variable {request : GroundingValidationRequest} {context : GroundingValidationContext}
  {result : GroundingValidationResult} {policy : NarrativePolicy} {source : NarrativeSourceBundle}
  {draft : NarrativeDraft}

/-! ## What is owed -/

/-- Something a draft must disclose. -/
structure Omission where
  disclosureType : String
  sourceReference : String
  disclosed : Bool
  issue : GroundingIssue
  deriving DecidableEq

/-- The entry that says whether the draft discloses it. -/
def Omission.entry (owed : Omission) : DisclosureAssessment where
  disclosureType := owed.disclosureType
  sourceReference := owed.sourceReference
  required := true
  disclosed := owed.disclosed
  issueCode := if owed.disclosed then none else some owed.issue.code

/-- A warning of the source. -/
def warningOwed (draft : NarrativeDraft) (warning : String) : Omission where
  disclosureType := "warning"
  sourceReference := warning
  disclosed := warning ∈ draft.warnings
  issue :=
    { code := .warningNotDisclosed
      assessment := .unsupported
      safeMessage := "Required warning is not disclosed" }

/-- A conflict of the evidence. -/
def conflictOwed (draft : NarrativeDraft) (conflict : EvidenceConflict) : Omission where
  disclosureType := "conflict"
  sourceReference := conflict.conflictCode
  disclosed := conflict.conflictCode ∈ draft.warnings
  issue :=
    { code := .conflictNotDisclosed
      assessment := .unsupported
      safeMessage := "Required conflict is not disclosed"
      evidenceId := some conflict.canonicalSourceId }

/-- The draft names a step that did not succeed. -/
def NamesStep (draft : NarrativeDraft) (step : StepResult) : Prop :=
  "step_failure:" ++ step.stepId ∈ draft.warnings

instance (step : StepResult) : Decidable (NamesStep draft step) :=
  inferInstanceAs (Decidable (_ ∈ _))

/-- A step that did not succeed. The draft discloses it by its name or by the code of its
error. -/
def failureOwed (draft : NarrativeDraft) (step : StepResult) : Omission where
  disclosureType := "failure"
  sourceReference := "step_failure:" ++ step.stepId
  disclosed := NamesStep draft step ∨ ∃ error ∈ step.error, error.code ∈ draft.warnings
  issue :=
    { code := .failureNotDisclosed
      assessment := .unsupported
      safeMessage := "Required step failure is not disclosed"
      sourceStepId := some step.stepId }

/-- The results of the steps that did not succeed, where the policy includes them. -/
def includedFailures (request : GroundingValidationRequest) : List StepResult :=
  if request.policy.includeFailedSteps = true then
    request.sourceBundle.executionResult.stepResults.filter (·.status ≠ .succeeded)
  else []

/-- All that a draft owes for its source. -/
def omissions (request : GroundingValidationRequest) : List Omission :=
  request.sourceBundle.narrativeInput.warnings.map (warningOwed request.draft) ++
    request.sourceBundle.narrativeInput.conflicts.map (conflictOwed request.draft) ++
    (includedFailures request).map (failureOwed request.draft)

/-- A result that reports what a draft owes: an entry for each, all of them that are missing
counted, and an issue about each missing one unless the limit of issues is reached. -/
structure ReportsOmissions (request : GroundingValidationRequest)
    (result : GroundingValidationResult) : Prop where
  entries : ((omissions request).map (·.entry)).Subperm result.disclosureAssessments
  counted : result.statistics.missingDisclosures = result.disclosureAssessments.countP (·.missing)
  listed : ∀ owed ∈ omissions request, owed.disclosed = false →
    (∃ issue ∈ result.issues, issue.key = owed.issue.key) ∨ groundingLimitReached ∈ result.issues

/-! ## When it is reported -/

/-- The confidence is low, and asked for. -/
def LowConfidence (request : GroundingValidationRequest) : Prop :=
  request.narrativeRequest.includeConfidence = true ∧
    request.sourceBundle.narrativeInput.confidence.score < request.policy.minimumConfidence

instance (request : GroundingValidationRequest) : Decidable (LowConfidence request) :=
  inferInstanceAs (Decidable (_ ∧ _))

/-- The draft names every included step that did not succeed and has no typed error, and the
disclosures it owes are not more than can be counted. -/
structure Disclosable (request : GroundingValidationRequest) : Prop where
  flagged : ∀ step ∈ includedFailures request, step.error = none → NamesStep request.draft step
  few : (omissions request).length + (if LowConfidence request then 1 else 0) ≤ 1000

/-- The disclosure of what is owed, and its issue where it is missing. -/
def Omission.assessed (owed : Omission) : DisclosureAssessment × List GroundingIssue :=
  (owed.entry, if owed.disclosed then [] else [owed.issue])

variable {disclosures : List (DisclosureAssessment × List GroundingIssue)}

/-- The failures are assessed if each has a flag. -/
theorem failureDisclosures_eq_ok_iff :
    failureDisclosures request.policy request.sourceBundle request.draft = .ok disclosures ↔
      (∀ step ∈ includedFailures request, step.error = none → NamesStep request.draft step) ∧
        (includedFailures request).map (fun step => (failureOwed request.draft step).assessed) =
          disclosures := by
  have assessed : ∀ step pair, failureDisclosure request.draft step = .ok pair ↔
      (step.error = none → NamesStep request.draft step) ∧
        (failureOwed request.draft step).assessed = pair := by
    intro step pair
    simp only [failureDisclosure, bind_eq_ok_iff, exists_unit_iff, rejectIf_eq_ok_iff,
      pure_eq_ok_iff, not_and, not_imp_not]
    rfl
  unfold failureDisclosures includedFailures
  split
  · exact collectEach_eq_ok_map assessed
  · simp

/-- The disclosures of a request are those of what it owes and of a low confidence. -/
theorem declaredDisclosures_eq_ok_iff :
    declaredDisclosures request = .ok disclosures ↔
      (∀ step ∈ includedFailures request, step.error = none → NamesStep request.draft step) ∧
        request.sourceBundle.narrativeInput.warnings.map (warningDisclosure request.draft) ++
          request.sourceBundle.narrativeInput.conflicts.map (conflictDisclosure request.draft) ++
          confidenceDisclosures request.policy request.sourceBundle request.draft
            request.narrativeRequest ++
          (includedFailures request).map (fun step =>
            (failureOwed request.draft step).assessed) = disclosures := by
  simp only [declaredDisclosures, bind_eq_ok_iff, failureDisclosures_eq_ok_iff, pure_eq_ok_iff]
  constructor
  · rintro ⟨_, ⟨flagged, rfl⟩, rfl⟩
    exact ⟨flagged, rfl⟩
  · rintro ⟨flagged, rfl⟩
    exact ⟨_, ⟨flagged, rfl⟩, rfl⟩

theorem confidenceDisclosures_length :
    (confidenceDisclosures request.policy request.sourceBundle request.draft
      request.narrativeRequest).length = if LowConfidence request then 1 else 0 := by
  by_cases low : LowConfidence request
  · rw [if_pos low]
    simp only [LowConfidence] at low
    simp only [confidenceDisclosures, if_pos low, List.length_singleton]
  · rw [if_neg low]
    simp only [LowConfidence] at low
    simp only [confidenceDisclosures, if_neg low, List.length_nil]

/-- Every disclosure is required. -/
theorem required_of_declared (declared : declaredDisclosures request = .ok disclosures) :
    ∀ pair ∈ disclosures, pair.1.required = true := by
  obtain ⟨-, rfl⟩ := declaredDisclosures_eq_ok_iff.mp declared
  intro pair present
  simp only [List.mem_append, List.mem_map] at present
  rcases present with ((⟨_, -, rfl⟩ | ⟨_, -, rfl⟩) | low) | ⟨_, -, rfl⟩
  · rfl
  · rfl
  · unfold confidenceDisclosures at low
    dsimp only at low
    split at low
    · rw [List.mem_singleton.mp low]
      rfl
    · cases low
  · rfl

/-- What is owed is among the disclosures, with a low confidence besides. -/
theorem owed_of_declared (declared : declaredDisclosures request = .ok disclosures) :
    ((omissions request).map (·.assessed)).Sublist disclosures ∧
      disclosures.length =
        (omissions request).length + if LowConfidence request then 1 else 0 := by
  obtain ⟨-, rfl⟩ := declaredDisclosures_eq_ok_iff.mp declared
  constructor
  · rw [omissions, List.map_append, List.map_append, List.map_map, List.map_map, List.map_map]
    exact (List.sublist_append_left _ _).append (List.Sublist.refl _)
  · simp only [omissions, List.length_append, List.length_map, confidenceDisclosures_length]
    omega

theorem accepted_groundingResult_iff {issues : List GroundingIssue}
    {claims : List ClaimGroundingAssessment} {citations : List CitationGroundingAssessment}
    {disclosures : List DisclosureAssessment} {ending : GroundingEnd} :
    Accepted (groundingResult request context issues claims citations disclosures ending) ↔
      claims.length ≤ 500 ∧ citations.length ≤ 1000 ∧
        disclosures.countP (·.required) ≤ 1000 ∧ context.startedAt ≤ ending.completed := by
  simp only [groundingResult, GroundingStatistics.bounded, groundingStatistics, Accepted,
    bind_eq_ok_iff, exists_unit_iff, rejectIf_eq_ok_iff, pure_eq_ok_iff, gt_iff_lt, not_or, not_lt,
    exists_and_left, exists_eq', and_true, and_assoc]

/-- The declared grounding of a matching request succeeds exactly where it is disclosable. -/
theorem accepted_validate_iff (matching : validateGroundingIdentity request context = .ok ()) :
    Accepted (validateGroundingDeterministically request context) ↔ Disclosable request := by
  have bounded (disclosures : List (DisclosureAssessment × List GroundingIssue))
      (declared : declaredDisclosures request = .ok disclosures) :
      (disclosures.map (·.1)).countP (·.required) =
        (omissions request).length + if LowConfidence request then 1 else 0 := by
    rw [← (owed_of_declared declared).2, ← List.length_map (·.1), List.countP_eq_length]
    simpa using fun pair => required_of_declared declared pair
  have identity : Accepted (validateGroundingDeterministically request context) ↔
      ∃ disclosures, declaredDisclosures request = .ok disclosures ∧
        (disclosures.map (·.1)).countP (·.required) ≤ 1000 := by
    simp only [validateGroundingDeterministically, accepted_bind_iff, matching,
      accepted_groundingResult_iff, List.length_map, true_and, exists_const]
    refine exists_congr fun disclosures => and_congr_right fun _ => ?_
    exact ⟨fun ⟨_, _, few, _⟩ => few, fun few =>
      ⟨request.draft.boundedClaims, request.draft.boundedUses, few, le_rfl⟩⟩
  rw [identity]
  constructor
  · rintro ⟨disclosures, declared, few⟩
    exact ⟨(declaredDisclosures_eq_ok_iff.mp declared).1, bounded disclosures declared ▸ few⟩
  · rintro ⟨flagged, few⟩
    have declared := declaredDisclosures_eq_ok_iff.mpr ⟨flagged, rfl⟩
    exact ⟨_, declared, (bounded _ declared).symm ▸ few⟩

/-- What is declared is reported. -/
theorem reportsOmissions_of_validate
    (validated : validateGroundingDeterministically request context = .ok result) :
    ReportsOmissions request result := by
  simp only [validateGroundingDeterministically, groundingResult, bind_eq_ok_iff, exists_unit_iff,
    pure_eq_ok_iff] at validated
  obtain ⟨-, disclosures, declared, -, -, rfl⟩ := validated
  have owed := (owed_of_declared declared).1
  refine ⟨?_, ?_, ?_⟩
  · have entries := owed.map Prod.fst
    rw [List.map_map] at entries
    refine entries.subperm.trans (List.Perm.subperm (List.Perm.symm ?_))
    exact perm_sortedBy
  · refine List.Perm.countP_eq _ (List.Perm.symm ?_)
    exact perm_sortedBy
  · intro one isOwed missing
    have isIssue : one.issue ∈ declaredIssues request disclosures := by
      refine List.mem_append_right _ (List.mem_flatMap.mpr ⟨one.assessed,
        owed.subset (List.mem_map_of_mem isOwed), ?_⟩)
      simp [Omission.assessed, missing]
    obtain ⟨issue, isKept, same⟩ := @exists_lastByKey _ _ _ GroundingIssue.key _ _ isIssue
    have isSorted : issue ∈ sortedBy GroundingIssue.order
        (lastByKey GroundingIssue.key (declaredIssues request disclosures)) :=
      mem_sortedBy.mpr isKept
    rcases @mem_capped_or_summary _ _ maxValidationIssues groundingLimitReached _ isSorted with
      reported | limited
    · exact .inl ⟨issue, reported, same⟩
    · exact .inr limited

namespace Sample

/-- An execution that skipped its second step. -/
def skippedResult : ExecutionResult :=
  { reviewResult with
    status := .partial_
    stepResults := reviewResult.stepResults ++
      [{ stepId := "report"
         status := .skipped
         startedAt := some 1
         completedAt := some 1
         consistent := rfl }]
    consistent := by decide }

/-- Its sources. -/
def skippedBundle : NarrativeSourceBundle :=
  { reviewBundle with
    executionResult := skippedResult
    consistent := by decide +kernel }

/-- The draft that names the skipped step. -/
def namingDraft : NarrativeDraft :=
  { reviewDraft with
    warnings := ["incomplete_citations", "step_failure:report"]
    boundedWarnings := by decide
    distinctWarnings := by decide }

/-- The request to validate a draft over these sources. -/
def skippedRequest (draft : NarrativeDraft)
    (sameRequest : draft.requestId = reviewRequest.requestId) : GroundingValidationRequest where
  validationId := 6
  narrativeRequest := reviewRequest
  policy := groundingRequest.policy
  sourceBundle := skippedBundle
  draft := draft
  generationOutcome := { generationId := 7, status := .succeeded, draft := some draft }
  issuedAt := 2
  deadline := 9
  deadlineFollows := groundingRequest.deadlineFollows
  samePolicy := groundingRequest.samePolicy
  generated := rfl
  sameDraft := rfl
  sameRequest := sameRequest

end Sample

end PolicyOS.Intelligence
