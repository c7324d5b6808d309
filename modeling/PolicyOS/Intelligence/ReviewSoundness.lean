import PolicyOS.Intelligence.GroundingSoundness
import PolicyOS.Intelligence.Reflection

/-!
# Soundness of a recommended approval

All findings block approval and every stage reports an issue where it has one, so an
approved draft has no issue in any stage: neither the structural validation nor the
declared grounding found anything, whatever either left out of a bounded report.
-/

namespace PolicyOS.Intelligence

open Foundation Execution

/-! ## Dispositions -/

section Disposition

variable {request : ReflectionRequest} {context : ReflectionContext} {result : ReflectionResult}

theorem blocks_of_made {finding : ReflectionFinding} (made : finding ∈ madeFindings request) :
    finding.blocksApproval = true := by
  simp only [madeFindings, List.mem_append, List.mem_mapIdx] at made
  rcases made with ⟨_, _, rfl⟩ | ⟨_, _, rfl⟩
  · rfl
  · rfl

theorem madeFindings_eq_nil_iff :
    madeFindings request = [] ↔
      request.structuralValidation.valid ∧ request.groundingValidation.issues = [] := by
  simp [madeFindings, NarrativeValidationResult.valid, List.filter_eq_nil_iff]

/-- Findings that block approval are only approved when there are none. -/
theorem disposition_approves_iff {findings : List ReflectionFinding} {cancelled : Bool}
    (blocking : ∀ finding ∈ findings, finding.blocksApproval = true) :
    disposition request findings cancelled ∈ [.approve, .approveWithWarnings] ↔
      cancelled = false ∧
        request.groundingValidation.status ∉ [.inconclusive, .failed, .timedOut, .cancelled] ∧
          findings = [] := by
  unfold disposition
  cases findings with
  | nil => split_ifs <;> simp_all
  | cons first rest =>
      have isBlocked : ∃ finding ∈ first :: rest, finding.blocksApproval = true :=
        ⟨first, List.mem_cons_self, blocking first List.mem_cons_self⟩
      split_ifs <;> simp

theorem reflectDeterministically_eq_ok
    (reflected : reflectDeterministically request context = .ok result) :
    result.findings = sortedBy ReflectionFinding.order (madeFindings request) ∧
      result.revisionPlan.disposition =
        disposition request result.findings context.cancellationRequested ∧
      result.cancelled = context.cancellationRequested := by
  simp only [reflectDeterministically, bind_eq_ok_iff, exists_unit_iff, pure_eq_ok_iff] at reflected
  obtain ⟨-, -, rfl⟩ := reflected
  exact ⟨rfl, rfl, rfl⟩

/-- Approval is recommended exactly when nothing was found, the grounding was brought to
an end and the review was not cancelled. -/
theorem approvalRecommended_iff
    (reflected : reflectDeterministically request context = .ok result) :
    result.approvalRecommended ↔
      result.cancelled = false ∧
        request.groundingValidation.status ∉ [.inconclusive, .failed, .timedOut, .cancelled] ∧
          request.structuralValidation.valid ∧ request.groundingValidation.issues = [] := by
  obtain ⟨found, disposed, cancelled⟩ := reflectDeterministically_eq_ok reflected
  rw [ReflectionResult.approvalRecommended, disposed, disposition_approves_iff, cancelled, found,
    sortedBy_eq_nil_iff, madeFindings_eq_nil_iff]
  intro finding isFinding
  rw [found, mem_sortedBy] at isFinding
  exact blocks_of_made isFinding

end Disposition

/-! ## The structural stage -/

section Structural

variable {request : NarrativeRequest} {source : NarrativeSourceBundle}
  {plan : List NarrativeSectionPlan} {draft : NarrativeDraft}
  {structural : NarrativeValidationResult}

/-- A list of errors. -/
def AllErrors (issues : List NarrativeValidationIssue) : Prop :=
  ∀ issue ∈ issues, issue.severity = .error

/-- No issue is no error. -/
@[simp] theorem allErrors_nil : AllErrors [] := fun _ absent => nomatch absent

/-- A list of errors is one of errors and a rest of errors. -/
@[simp] theorem allErrors_cons_iff {issue : NarrativeValidationIssue}
    {issues : List NarrativeValidationIssue} :
    AllErrors (issue :: issues) ↔ issue.severity = .error ∧ AllErrors issues :=
  List.forall_mem_cons

/-- Two lists are errors when each is. -/
@[simp] theorem allErrors_append_iff {first second : List NarrativeValidationIssue} :
    AllErrors (first ++ second) ↔ AllErrors first ∧ AllErrors second :=
  List.forall_mem_append

/-- The issues of items are errors when those of each item are. -/
@[simp] theorem allErrors_flatMap_iff {Item : Type} {items : List Item}
    {issues : Item → List NarrativeValidationIssue} :
    AllErrors (items.flatMap issues) ↔ ∀ item ∈ items, AllErrors (issues item) := by
  simp only [AllErrors, List.mem_flatMap]
  exact ⟨fun all item isItem issue isIssue => all issue ⟨item, isItem, isIssue⟩,
    fun all issue ⟨item, isItem, isIssue⟩ => all item isItem issue isIssue⟩

/-- An issue of a draft is an error. -/
@[simp] theorem severity_narrativeIssue {code safeMessage : String}
    {sectionId claimId citationId evidenceId : Option String} :
    (narrativeIssue code safeMessage sectionId claimId citationId evidenceId).severity = .error :=
  rfl

/-- An error, where there is one, is an error. -/
@[simp] theorem allErrors_issueIf {condition : Prop} [Decidable condition]
    {code safeMessage : String} {sectionId claimId citationId evidenceId : Option String} :
    AllErrors (issueIf condition
      (narrativeIssue code safeMessage sectionId claimId citationId evidenceId)) := by
  unfold issueIf
  split <;> simp

theorem allErrors_section {item : NarrativeSection} : AllErrors (sectionIssues plan draft item) := by
  unfold sectionIssues
  split <;> simp

theorem allErrors_citationUse {use : NarrativeCitationUse} :
    AllErrors (citationUseIssues source draft use) := by
  unfold citationUseIssues
  split
  · simp
  · split
    · simp
    · split <;> simp

theorem allErrors_collected : AllErrors (collectedIssues request source plan draft) := by
  simp [collectedIssues, draftIssues, plannedIssues, allErrors_section, claimIssues,
    allErrors_citationUse, disclosureIssues]

theorem AllErrors.bounded {issues : List NarrativeValidationIssue} (errors : AllErrors issues) :
    AllErrors (boundedIssues issues) := by
  intro issue reported
  rcases mem_of_capped reported with kept | rfl
  · exact errors issue (mem_of_lastByKey (mem_sortedBy.mp kept))
  · rfl

/-- A validated draft is valid exactly when it has no issue. -/
theorem valid_iff_uncollected
    (validated : validateNarrativeDraft request source plan draft = .ok structural) :
    structural.valid ↔ collectedIssues request source plan draft = [] := by
  simp only [validateNarrativeDraft, bind_eq_ok_iff, exists_unit_iff, pure_eq_ok_iff] at validated
  obtain ⟨-, rfl⟩ := validated
  have reported : boundedIssues (collectedIssues request source plan draft) = [] ↔
      collectedIssues request source plan draft = [] := by simp [boundedIssues]
  rw [← reported, NarrativeValidationResult.valid]
  constructor
  · intro errorless
    refine List.eq_nil_iff_forall_not_mem.mpr fun issue isIssue => errorless ⟨issue, isIssue, ?_⟩
    exact allErrors_collected.bounded issue isIssue
  · rintro empty ⟨issue, isIssue, -⟩
    rw [empty] at isIssue
    cases isIssue

/-- The sources a claim refers to are allowed, and a fact has evidence. -/
structure ClaimSupported (source : NarrativeSourceBundle) (claim : NarrativeClaim) : Prop where
  evidence : claim.supportingEvidenceIds ⊆ source.allowedEvidenceIds
  citations : claim.supportingCitationIds ⊆ source.allowedCitationIds
  steps : claim.sourceStepIds ⊆ source.allowedStepIds
  factual : claim.claimType = .sourcedFact → claim.supportingEvidenceIds ≠ []

theorem supported_of_claimIssues {claim : NarrativeClaim}
    (unreported : claimIssues request source plan draft claim = []) :
    ClaimSupported source claim := by
  simp only [claimIssues, List.flatten_eq_nil_iff, List.forall_mem_cons, issueIf_eq_nil_iff,
    List.flatMap_eq_nil_iff, not_not] at unreported
  obtain ⟨-, -, grounded, -, -, evidence, citations, steps, -⟩ := unreported
  refine ⟨fun id => evidence id, fun id => citations id, fun id => steps id, ?_⟩
  intro isFact empty
  exact grounded ⟨by simp [isFact], empty⟩

theorem supported_of_valid
    (validated : validateNarrativeDraft request source plan draft = .ok structural)
    (valid : structural.valid) : ∀ claim ∈ draft.claims, ClaimSupported source claim := by
  have uncollected := (valid_iff_uncollected validated).mp valid
  simp only [collectedIssues, List.flatten_eq_nil_iff, List.forall_mem_cons,
    List.flatMap_eq_nil_iff] at uncollected
  obtain ⟨-, -, -, claims, -⟩ := uncollected
  exact fun claim isClaim => supported_of_claimIssues (claims claim isClaim)

end Structural

/-! ## The grounding stage -/

section Declared

variable {request : GroundingValidationRequest} {context : GroundingValidationContext}
  {result : GroundingValidationResult}

/-- Whatever becomes of the semantic part, a grounding without issues comes from a
declared validation without issues. -/
theorem undeclared_of_unreported {adapter : Option SemanticGroundingAdapter}
    {clock : ClockReadings}
    (validated : validateGrounding adapter clock request context = .ok result)
    (unreported : result.issues = []) :
    ∃ deterministic, validateGroundingDeterministically request context = .ok deterministic ∧
      deterministic.issues = [] := by
  simp only [validateGrounding, bind_eq_ok_iff] at validated
  obtain ⟨deterministic, declared, rest⟩ := validated
  refine ⟨deterministic, declared, ?_⟩
  split_ifs at rest
  · rwa [← pure_eq_ok_iff.mp rest] at unreported
  · rwa [← pure_eq_ok_iff.mp rest] at unreported
  · rwa [← pure_eq_ok_iff.mp rest] at unreported
  · cases adapter with
    | none =>
        rw [(groundingResult_eq_ok rest).1] at unreported
        simp at unreported
    | some semantic =>
        cases answered : semantic request context with
        | error failure =>
            simp only [answered] at rest
            cases failure with
            | other message => cases rest
            | grounding code safeMessage retryable =>
                rw [(groundingResult_eq_ok rest).1] at unreported
                simp at unreported
        | ok answer =>
            simp only [answered, validateSemantically] at rest
            split at rest
            · rwa [← pure_eq_ok_iff.mp rest] at unreported
            · simp only [bind_eq_ok_iff, exists_unit_iff] at rest
              rw [(groundingResult_eq_ok rest.2).1, boundedGroundingIssues_eq_nil_iff,
                List.append_eq_nil_iff] at unreported
              exact unreported.1

/-- A step that failed is named among the warnings, itself or by the code of its error. -/
def StepDisclosed (draft : NarrativeDraft) (step : StepResult) : Prop :=
  "step_failure:" ++ step.stepId ∈ draft.warnings ∨
    ∃ error ∈ step.error, error.code ∈ draft.warnings

/-- What the sources require to be said is said in the draft. -/
structure SourcesDisclosed (policy : NarrativePolicy) (source : NarrativeSourceBundle)
    (draft : NarrativeDraft) : Prop where
  warnings : source.narrativeInput.warnings ⊆ draft.warnings
  conflicts : ∀ conflict ∈ source.narrativeInput.conflicts,
    conflict.conflictCode ∈ draft.warnings
  failures : policy.includeFailedSteps = true → ∀ step ∈ source.executionResult.stepResults,
    step.status ≠ .succeeded → StepDisclosed draft step

theorem disclosed_of_disclosure {disclosureType sourceReference safeMessage : String}
    {disclosed : Bool} {code : GroundingIssueCode} {evidenceId sourceStepId : Option String}
    (made : ¬ (disclosure disclosureType sourceReference disclosed code safeMessage evidenceId
      sourceStepId).1.missing) : disclosed = true := by
  simpa [disclosure, DisclosureAssessment.missing] using made

/-- Where no declared disclosure is missing, the sources are disclosed. -/
theorem sourcesDisclosed_of_declared
    {disclosures : List (DisclosureAssessment × List GroundingIssue)}
    (declared : declaredDisclosures request = .ok disclosures)
    (made : ∀ pair ∈ disclosures, ¬ pair.1.missing) :
    SourcesDisclosed request.policy request.sourceBundle request.draft := by
  simp only [declaredDisclosures, bind_eq_ok_iff, pure_eq_ok_iff] at declared
  obtain ⟨failures, computed, rfl⟩ := declared
  simp only [List.mem_append, List.mem_map] at made
  refine ⟨fun warning isWarning => ?_, fun conflict isConflict => ?_,
    fun included step isStep failed => ?_⟩
  · exact of_decide_eq_true
      (disclosed_of_disclosure (made _ (.inl (.inl (.inl ⟨warning, isWarning, rfl⟩)))))
  · exact of_decide_eq_true
      (disclosed_of_disclosure (made _ (.inl (.inl (.inr ⟨conflict, isConflict, rfl⟩)))))
  · rw [failureDisclosures, if_pos included] at computed
    obtain ⟨pair, isPair, ofStep⟩ := exists_of_collectEach computed
      (List.mem_filter.mpr ⟨isStep, decide_eq_true failed⟩)
    simp only [failureDisclosure, bind_eq_ok_iff, exists_unit_iff, pure_eq_ok_iff] at ofStep
    obtain ⟨-, rfl⟩ := ofStep
    rw [StepDisclosed]
    exact of_decide_eq_true (disclosed_of_disclosure (made _ (.inr isPair)))

theorem sourcesDisclosed_of_unreported {adapter : Option SemanticGroundingAdapter}
    {clock : ClockReadings}
    (validated : validateGrounding adapter clock request context = .ok result)
    (unreported : result.issues = []) :
    SourcesDisclosed request.policy request.sourceBundle request.draft := by
  obtain ⟨deterministic, validated, unreported⟩ := undeclared_of_unreported validated unreported
  obtain ⟨disclosures, declared, found⟩ := declaredBy_of_validate validated
  exact sourcesDisclosed_of_declared declared (found.clean unreported).disclosures

end Declared

/-! ## The whole review -/

/-- The stages of one review: the structure of a draft, its grounding and the reflection
over both, all of one narrative request and its sources. -/
structure Reviewed (narrative : NarrativeRequest) (source : NarrativeSourceBundle)
    (plan : List NarrativeSectionPlan) (draft : NarrativeDraft)
    (adapter : Option SemanticGroundingAdapter) (clock : ClockReadings)
    (result : ReflectionResult) where
  grounding : GroundingValidationRequest
  groundingContext : GroundingValidationContext
  reflection : ReflectionRequest
  reflectionContext : ReflectionContext
  groundsRequest : grounding.narrativeRequest = narrative
  groundsSource : grounding.sourceBundle = source
  groundsDraft : grounding.draft = draft
  structured : validateNarrativeDraft narrative source plan draft =
    .ok reflection.structuralValidation
  grounded : validateGrounding adapter clock grounding groundingContext =
    .ok reflection.groundingValidation
  reflected : reflectDeterministically reflection reflectionContext = .ok result

/-- What a recommended approval is relied on for. -/
structure ApprovalSound (narrative : NarrativeRequest) (source : NarrativeSourceBundle)
    (draft : NarrativeDraft) (result : ReflectionResult) : Prop where
  uncancelled : result.cancelled = false
  claims : ∀ claim ∈ draft.claims, ClaimSupported source claim
  disclosed : SourcesDisclosed narrative.policy source draft

/-- A draft whose approval is recommended is supported by its sources and discloses what
they require. -/
theorem approval_sound {narrative : NarrativeRequest} {source : NarrativeSourceBundle}
    {plan : List NarrativeSectionPlan} {draft : NarrativeDraft}
    {adapter : Option SemanticGroundingAdapter} {clock : ClockReadings}
    {result : ReflectionResult}
    (review : Reviewed narrative source plan draft adapter clock result)
    (approved : result.approvalRecommended) : ApprovalSound narrative source draft result := by
  obtain ⟨uncancelled, -, valid, unreported⟩ :=
    (approvalRecommended_iff review.reflected).mp approved
  refine ⟨uncancelled, supported_of_valid review.structured valid, ?_⟩
  have disclosed := sourcesDisclosed_of_unreported review.grounded unreported
  rw [review.grounding.samePolicy, review.groundsRequest, review.groundsSource,
    review.groundsDraft] at disclosed
  exact disclosed

namespace Sample

/-- The one section of the review. -/
def reviewPlan : List NarrativeSectionPlan :=
  [{ sectionId := "summary", allowedClaimTypes := [.sourcedFact] }]

/-- The context of the reflection. -/
def reflectionContext : ReflectionContext where
  reflectionId := 8
  requestId := 5
  generationId := 7
  validationId := 6
  executionId := 2
  organizationId := 3
  actorId := 4
  correlationId := "review"
  classification := .confidential
  issuedAt := 6
  startedAt := 7
  deadline := 9

/-- The structural validation of the draft. -/
def structuralValidation : NarrativeValidationResult :=
  givenValue (validateNarrativeDraft reviewRequest reviewBundle reviewPlan reviewDraft)
    (by decide +kernel)

/-- The request to ground what the draft declares. -/
def declaredRequest : GroundingValidationRequest :=
  { groundingRequest with validationMode := .deterministicOnly }

/-- The grounding of what the draft declares. -/
def groundingValidation : GroundingValidationResult :=
  givenValue (validateGrounding none ⟨4, 5⟩ declaredRequest groundingContext)
    (by decide +kernel)

/-- The request to reflect on both. -/
def reflectionRequest : ReflectionRequest where
  reflectionId := 8
  narrativeRequest := reviewRequest
  policy := groundingRequest.policy
  sourceBundle := reviewBundle
  draft := reviewDraft
  structuralValidation := structuralValidation
  groundingValidation := groundingValidation
  issuedAt := 6
  deadline := 9
  samePolicy := groundingRequest.samePolicy
  validSource := groundingRequest.validSource
  sameIdentities := by decide +kernel

/-- The reflection. -/
def reflectionResult : ReflectionResult :=
  givenValue (reflectDeterministically reflectionRequest reflectionContext) (by decide +kernel)

/-- The review of the draft. -/
def review : Reviewed reviewRequest reviewBundle reviewPlan reviewDraft none ⟨4, 5⟩
    reflectionResult where
  grounding := declaredRequest
  groundingContext := groundingContext
  reflection := reflectionRequest
  reflectionContext := reflectionContext
  groundsRequest := rfl
  groundsSource := rfl
  groundsDraft := rfl
  structured := eq_ok_givenValue (by decide +kernel)
  grounded := eq_ok_givenValue (by decide +kernel)
  reflected := eq_ok_givenValue (by decide +kernel)

end Sample

/-- The approval of the draft that names the one warning of its sources is recommended,
and sound. -/
theorem approval_sound_review :
    ApprovalSound Sample.reviewRequest Sample.reviewBundle Sample.reviewDraft
      Sample.reflectionResult :=
  approval_sound Sample.review (by decide +kernel)

end PolicyOS.Intelligence
