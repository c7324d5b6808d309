import PolicyOS.Intelligence.Grounding

/-!
# Soundness of a valid grounding

A valid grounding has no issue of either stage, and without an issue everything a
draft declares is supported and disclosed. Where a semantic adapter answers, its
assessments are the result: they are sound exactly when the answer is complete, since
only some of its assessments become issues.
-/

namespace PolicyOS.Intelligence

open Foundation Execution

variable {request : GroundingValidationRequest} {context : GroundingValidationContext}
  {result : GroundingValidationResult} {policy : NarrativePolicy} {source : NarrativeSourceBundle}
  {draft : NarrativeDraft}

/-! ## Issues and codes -/

variable {issues : List GroundingIssue} {deterministic : GroundingValidationResult}

/-- Nothing is reported of nothing only. -/
@[simp] theorem boundedGroundingIssues_eq_nil_iff :
    boundedGroundingIssues issues = [] ↔ issues = [] := by
  simp [boundedGroundingIssues]

theorem claimCodes_eq_nil {claim : NarrativeClaim}
    (unreported : claimGroundingIssues policy source claim = []) :
    claimCodes policy source claim = [] := by
  obtain ⟨noReference, unlisted⟩ := List.append_eq_nil_iff.mp unreported
  rw [List.map_eq_nil_iff, List.filter_eq_nil_iff] at unlisted
  refine List.eq_nil_iff_forall_not_mem.mpr fun code isCode => unlisted code isCode ?_
  simp [noReference]

/-- A disclosure without an issue is not missing. -/
def Reported (pair : DisclosureAssessment × List GroundingIssue) : Prop :=
  pair.2 = [] ↔ ¬ pair.1.missing

theorem reported_disclosure {disclosureType sourceReference safeMessage : String}
    {disclosed : Bool} {code : GroundingIssueCode} {evidenceId sourceStepId : Option String} :
    Reported (disclosure disclosureType sourceReference disclosed code safeMessage evidenceId
      sourceStepId) := by
  cases disclosed <;> simp [Reported, disclosure, DisclosureAssessment.missing]

/-- All declared disclosures are reported. -/
theorem reported_of_declared {disclosures : List (DisclosureAssessment × List GroundingIssue)}
    (declared : declaredDisclosures request = .ok disclosures) :
    ∀ pair ∈ disclosures, Reported pair := by
  simp only [declaredDisclosures, bind_eq_ok_iff, pure_eq_ok_iff] at declared
  obtain ⟨failures, computed, rfl⟩ := declared
  intro pair present
  simp only [List.mem_append, List.mem_map] at present
  rcases present with ((⟨_, -, rfl⟩ | ⟨_, -, rfl⟩) | low) | failed
  · exact reported_disclosure
  · exact reported_disclosure
  · unfold confidenceDisclosures at low
    dsimp only at low
    split at low
    · rw [List.mem_singleton.mp low]
      exact reported_disclosure
    · cases low
  · unfold failureDisclosures at computed
    split at computed
    · obtain ⟨step, -, isStep⟩ := mem_of_collectEach computed failed
      simp only [failureDisclosure, bind_eq_ok_iff, exists_unit_iff, pure_eq_ok_iff] at isStep
      rw [← isStep.2]
      exact reported_disclosure
    · rw [← Except.ok.inj computed] at failed
      cases failed

/-! ## Results -/

/-- What a built result is made of. -/
theorem groundingResult_eq_ok {claims : List ClaimGroundingAssessment}
    {citations : List CitationGroundingAssessment} {disclosures : List DisclosureAssessment}
    {ending : GroundingEnd}
    (built : groundingResult request context issues claims citations disclosures ending =
      .ok result) :
    result.issues = boundedGroundingIssues issues ∧
      result.status = ending.status.getD (groundingStatus request.validationMode
        ending.semanticStatus (boundedGroundingIssues issues)) ∧
      result.claimAssessments.Perm claims ∧ result.citationAssessments.Perm citations ∧
      result.disclosureAssessments.Perm disclosures := by
  simp only [groundingResult, bind_eq_ok_iff, exists_unit_iff, pure_eq_ok_iff] at built
  obtain ⟨-, -, rfl⟩ := built
  exact ⟨rfl, rfl, perm_sortedBy, perm_sortedBy, perm_sortedBy⟩

theorem groundingStatus_eq_valid_iff {mode : ValidationMode}
    {semanticStatus : SemanticValidationStatus} :
    groundingStatus mode semanticStatus issues = .valid ↔
      issues = [] ∧ (mode = .deterministicAndSemantic → semanticStatus = .succeeded) := by
  unfold groundingStatus
  split_ifs with reported unasked
  · simp [reported]
  · simp [unasked]
  · simpa [not_not.mp reported] using unasked

/-- What the declared validation found. -/
structure DeclaredBy (request : GroundingValidationRequest)
    (disclosures : List (DisclosureAssessment × List GroundingIssue))
    (deterministic : GroundingValidationResult) : Prop where
  reported : ∀ pair ∈ disclosures, Reported pair
  issues : deterministic.issues = boundedGroundingIssues (declaredIssues request disclosures)
  status : deterministic.status =
    groundingStatus request.validationMode .notRequested deterministic.issues
  claims : deterministic.claimAssessments.Perm
    (request.draft.claims.map (claimAssessment request.policy request.sourceBundle))
  citations : deterministic.citationAssessments.Perm
    (request.draft.citationUses.map (citationAssessment request.sourceBundle request.draft))
  disclosures : deterministic.disclosureAssessments.Perm (disclosures.map (·.1))

theorem declaredBy_of_validate
    (validated : validateGroundingDeterministically request context = .ok deterministic) :
    ∃ disclosures, declaredDisclosures request = .ok disclosures ∧
      DeclaredBy request disclosures deterministic := by
  simp only [validateGroundingDeterministically, bind_eq_ok_iff, exists_unit_iff] at validated
  obtain ⟨-, disclosures, declared, built⟩ := validated
  obtain ⟨issues, status, claims, citations, disclosed⟩ := groundingResult_eq_ok built
  exact ⟨disclosures, declared, reported_of_declared declared, issues, issues ▸ status, claims,
    citations, disclosed⟩

/-- Without an issue, nothing a draft declares lacks support or disclosure. -/
structure DeclaredClean (request : GroundingValidationRequest)
    (disclosures : List (DisclosureAssessment × List GroundingIssue)) : Prop where
  claims : ∀ claim ∈ request.draft.claims,
    claimCodes request.policy request.sourceBundle claim = []
  citations : ∀ use ∈ request.draft.citationUses,
    citationCodes request.sourceBundle request.draft use = []
  disclosures : ∀ pair ∈ disclosures, ¬ pair.1.missing

/-- A declared validation without issues is clean. -/
theorem DeclaredBy.clean {disclosures : List (DisclosureAssessment × List GroundingIssue)}
    (declared : DeclaredBy request disclosures deterministic)
    (unreported : deterministic.issues = []) : DeclaredClean request disclosures := by
  rw [declared.issues, boundedGroundingIssues_eq_nil_iff, declaredIssues,
    List.append_eq_nil_iff, List.append_eq_nil_iff] at unreported
  simp only [List.flatMap_eq_nil_iff] at unreported
  obtain ⟨⟨claims, citations⟩, disclosed⟩ := unreported
  exact
    { claims := fun claim isClaim => claimCodes_eq_nil (claims claim isClaim)
      citations := fun use isUse => List.map_eq_nil_iff.mp (citations use isUse)
      disclosures := fun pair present =>
        (declared.reported pair present).mp (disclosed pair present) }

/-! ## Valid results -/

/-- What the result of an answer is made of. -/
structure AnsweredBy (request : GroundingValidationRequest) (answer : SemanticAnswer)
    (result : GroundingValidationResult) : Prop where
  sameClaims : answer.claims.map (·.claimId) ⊆ request.draft.claims.map (·.claimId) ∧
    request.draft.claims.map (·.claimId) ⊆ answer.claims.map (·.claimId)
  supported : ∀ assessment ∈ answer.claims,
    assessment.assessment ∉ [.unsupported, .contradicted, .partiallySupported]
  claims : result.claimAssessments.Perm answer.claims
  citations : result.citationAssessments.Perm answer.citations
  disclosures : result.disclosureAssessments.Perm answer.disclosures

theorem claimSupportIssues_eq_nil_iff {item : ClaimGroundingAssessment} :
    claimSupportIssues item = [] ↔
      item.assessment ∉ [.unsupported, .contradicted, .partiallySupported] := by
  simp [claimSupportIssues]

/-- A valid result of an answer comes from an unreported declared validation. -/
theorem answeredBy_of_valid {answer : SemanticAnswer} {completed : DateTime}
    (validated : validateSemantically request context deterministic answer completed = .ok result)
    (valid : result.status = .valid) :
    deterministic.issues = [] ∧ AnsweredBy request answer result := by
  unfold validateSemantically at validated
  split at validated
  · rw [← pure_eq_ok_iff.mp validated] at valid
    cases valid
  · simp only [bind_eq_ok_iff, exists_unit_iff, rejectIf_eq_ok_iff, not_not] at validated
    obtain ⟨sameClaims, built⟩ := validated
    obtain ⟨-, status, claims, citations, disclosures⟩ := groundingResult_eq_ok built
    rw [status, Option.getD_none, groundingStatus_eq_valid_iff, boundedGroundingIssues_eq_nil_iff,
      List.append_eq_nil_iff, List.flatMap_eq_nil_iff] at valid
    exact ⟨valid.1.1, sameClaims, fun assessment isAssessment =>
      claimSupportIssues_eq_nil_iff.mp (valid.1.2 assessment isAssessment), claims, citations,
      disclosures⟩

/-- A valid result is that of the declared validation, or of the answer of the adapter;
either way the declared validation has no issue. -/
theorem valid_cases {adapter : Option SemanticGroundingAdapter} {clock : ClockReadings}
    (validated : validateGrounding adapter clock request context = .ok result)
    (valid : result.status = .valid) :
    ∃ deterministic, validateGroundingDeterministically request context = .ok deterministic ∧
      deterministic.issues = [] ∧
      (request.validationMode = .deterministicOnly ∧
          result = { deterministic with completedAt := clock.before } ∨
        request.validationMode = .deterministicAndSemantic ∧ ∃ semantic answer,
          adapter = some semantic ∧ semantic request context = .ok answer ∧
            AnsweredBy request answer result) := by
  simp only [validateGrounding, bind_eq_ok_iff] at validated
  obtain ⟨deterministic, declared, rest⟩ := validated
  refine ⟨deterministic, declared, ?_⟩
  split_ifs at rest with only cancelled late
  · -- The declared validation decides alone.
    obtain rfl := pure_eq_ok_iff.mp rest
    obtain ⟨_, -, found⟩ := declaredBy_of_validate declared
    rw [show _ = deterministic.status from rfl, found.status,
      groundingStatus_eq_valid_iff] at valid
    exact ⟨valid.1, .inl ⟨only, rfl⟩⟩
  · rw [← pure_eq_ok_iff.mp rest] at valid
    cases valid
  · rw [← pure_eq_ok_iff.mp rest] at valid
    cases valid
  · have mode : request.validationMode = .deterministicAndSemantic := by
      cases isMode : request.validationMode with
      | deterministicOnly => exact absurd isMode only
      | deterministicAndSemantic => rfl
    cases adapter with
    | none =>
        rw [(groundingResult_eq_ok rest).2.1] at valid
        cases valid
    | some semantic =>
        cases answered : semantic request context with
        | error failure =>
            simp only [answered] at rest
            cases failure with
            | other message => cases rest
            | grounding code safeMessage retryable =>
                rw [(groundingResult_eq_ok rest).2.1] at valid
                cases valid
        | ok answer =>
            simp only [answered] at rest
            obtain ⟨unreported, answeredBy⟩ := answeredBy_of_valid rest valid
            exact ⟨unreported, .inr ⟨mode, semantic, answer, rfl, answered, answeredBy⟩⟩

/-! ## Soundness -/

/-- What a valid grounding is relied on for. -/
structure GroundingSound (request : GroundingValidationRequest)
    (context : GroundingValidationContext) (result : GroundingValidationResult) : Prop where
  declared : ∃ deterministic, validateGroundingDeterministically request context =
    .ok deterministic ∧ deterministic.issues = []
  claims : ∀ claim ∈ request.draft.claims, ∃ assessment,
    result.claimAssessments.filter (·.claimId = claim.claimId) = [assessment] ∧
      assessment.assessment ∈ [.supported, .notApplicable]
  assessed : ∀ use ∈ request.draft.citationUses, ∃ assessment ∈ result.citationAssessments,
    assessment.citationUseId = use.citationUseId
  citations : ∀ assessment ∈ result.citationAssessments,
    assessment.assessment ∉ [.unsupported, .contradicted, .inconclusive]
  disclosures : ∀ disclosure ∈ result.disclosureAssessments, ¬ disclosure.missing

/-- An answer assesses every claim once and conclusively, and every citation use, and
misses no disclosure. -/
structure AnswerComplete (request : GroundingValidationRequest) (answer : SemanticAnswer) :
    Prop where
  once : ∀ claim ∈ request.draft.claims,
    (answer.claims.filter (·.claimId = claim.claimId)).length ≤ 1
  conclusive : ∀ assessment ∈ answer.claims,
    assessment.assessment ∉ [.inconclusive, .validationUnavailable]
  assessed : ∀ use ∈ request.draft.citationUses, ∃ assessment ∈ answer.citations,
    assessment.citationUseId = use.citationUseId
  citations : ∀ assessment ∈ answer.citations,
    assessment.assessment ∉ [.unsupported, .contradicted, .inconclusive]
  disclosures : ∀ disclosure ∈ answer.disclosures, ¬ disclosure.missing

/-- The declared assessments of a draft without issues are sound. -/
theorem sound_of_declared
    (validated : validateGroundingDeterministically request context = .ok deterministic)
    (unreported : deterministic.issues = []) : GroundingSound request context deterministic := by
  obtain ⟨disclosures, -, declared⟩ := declaredBy_of_validate validated
  have clean := declared.clean unreported
  refine ⟨⟨deterministic, validated, unreported⟩, fun claim isClaim => ?_, fun use isUse => ?_,
    fun assessment isAssessment => ?_, fun disclosure isDisclosure => ?_⟩
  · refine ⟨claimAssessment request.policy request.sourceBundle claim, ?_, ?_⟩
    · have distinct : (request.draft.claims.map
          (claimAssessment request.policy request.sourceBundle)).Nodup := by
        refine List.Nodup.of_map (·.claimId) ?_
        rw [List.map_map]
        exact request.draft.distinctClaims
      refine filter_eq_singleton (declared.claims.nodup_iff.mpr distinct)
        (declared.claims.mem_iff.mpr (List.mem_map_of_mem isClaim)) (decide_eq_true rfl) ?_
      intro other isOther same
      obtain ⟨own, isOwn, rfl⟩ := List.mem_map.mp (declared.claims.mem_iff.mp isOther)
      rw [List.inj_on_of_nodup_map request.draft.distinctClaims isOwn isClaim
        (of_decide_eq_true same)]
    · simp [claimAssessment, declaredAssessment, clean.claims claim isClaim]
  · exact ⟨_, declared.citations.mem_iff.mpr (List.mem_map_of_mem isUse), rfl⟩
  · obtain ⟨use, isUse, rfl⟩ := List.mem_map.mp (declared.citations.mem_iff.mp isAssessment)
    simp [citationAssessment, declaredAssessment, clean.citations use isUse]
  · obtain ⟨pair, isPair, rfl⟩ := List.mem_map.mp (declared.disclosures.mem_iff.mp isDisclosure)
    exact clean.disclosures pair isPair

/-- The assessments of an answer are sound exactly when the answer is complete. -/
theorem sound_iff_complete {answer : SemanticAnswer}
    (declared : ∃ deterministic, validateGroundingDeterministically request context =
      .ok deterministic ∧ deterministic.issues = [])
    (answered : AnsweredBy request answer result) :
    GroundingSound request context result ↔ AnswerComplete request answer := by
  have filtered : ∀ claimId, (result.claimAssessments.filter (·.claimId = claimId)).Perm
      (answer.claims.filter (·.claimId = claimId)) := fun _ => answered.claims.filter _
  constructor
  · intro sound
    refine ⟨fun claim isClaim => ?_, fun assessment isAssessment => ?_, fun use isUse => ?_,
      fun assessment isAssessment =>
        sound.citations assessment (answered.citations.mem_iff.mpr isAssessment),
      fun disclosure isDisclosure =>
        sound.disclosures disclosure (answered.disclosures.mem_iff.mpr isDisclosure)⟩
    · obtain ⟨_, only, _⟩ := sound.claims claim isClaim
      rw [← (filtered claim.claimId).length_eq, only, List.length_singleton]
    · obtain ⟨claim, isClaim, same⟩ :=
        List.mem_map.mp (answered.sameClaims.1 (List.mem_map_of_mem isAssessment))
      obtain ⟨own, only, concluded⟩ := sound.claims claim isClaim
      have present : assessment ∈ answer.claims.filter (·.claimId = claim.claimId) :=
        List.mem_filter.mpr ⟨isAssessment, decide_eq_true same.symm⟩
      rw [← (filtered claim.claimId).mem_iff, only, List.mem_singleton] at present
      rw [present]
      intro inconclusive
      revert concluded inconclusive
      cases own.assessment <;> decide
    · obtain ⟨assessment, isAssessment, same⟩ := sound.assessed use isUse
      exact ⟨assessment, answered.citations.mem_iff.mp isAssessment, same⟩
  · intro complete
    refine ⟨declared, fun claim isClaim => ?_, fun use isUse => ?_,
      fun assessment isAssessment =>
        complete.citations assessment (answered.citations.mem_iff.mp isAssessment),
      fun disclosure isDisclosure =>
        complete.disclosures disclosure (answered.disclosures.mem_iff.mp isDisclosure)⟩
    · obtain ⟨assessment, isAssessment, same⟩ :=
        List.mem_map.mp (answered.sameClaims.2 (List.mem_map_of_mem isClaim))
      have present : assessment ∈ answer.claims.filter (·.claimId = claim.claimId) :=
        List.mem_filter.mpr ⟨isAssessment, decide_eq_true same⟩
      have only : answer.claims.filter (·.claimId = claim.claimId) = [assessment] := by
        obtain ⟨own, isOwn⟩ := List.length_eq_one_iff.mp (Nat.le_antisymm
          (complete.once claim isClaim) (List.length_pos_of_mem present))
        rw [isOwn] at present ⊢
        rw [List.mem_singleton.mp present]
      refine ⟨assessment, List.perm_singleton.mp (only ▸ filtered claim.claimId), ?_⟩
      have supported := answered.supported assessment isAssessment
      have conclusive := complete.conclusive assessment isAssessment
      revert supported conclusive
      cases assessment.assessment <;> decide
    · obtain ⟨assessment, isAssessment, same⟩ := complete.assessed use isUse
      exact ⟨assessment, answered.citations.mem_iff.mpr isAssessment, same⟩

/-- A valid grounding is sound exactly when the answer of its adapter, where it was asked
for one, is complete. -/
theorem grounding_sound_iff {adapter : Option SemanticGroundingAdapter} {clock : ClockReadings}
    (validated : validateGrounding adapter clock request context = .ok result)
    (valid : result.status = .valid) :
    GroundingSound request context result ↔
      (request.validationMode = .deterministicAndSemantic → ∀ semantic answer,
        adapter = some semantic → semantic request context = .ok answer →
          AnswerComplete request answer) := by
  obtain ⟨deterministic, declared, unreported, ⟨only, rfl⟩ | ⟨mode, semantic, answer, rfl,
    answers, answered⟩⟩ := valid_cases validated valid
  · have sound := sound_of_declared declared unreported
    refine iff_of_true ⟨sound.declared, sound.claims, sound.assessed, sound.citations,
      sound.disclosures⟩ fun both => ?_
    rw [only] at both
    cases both
  · rw [sound_iff_complete ⟨deterministic, declared, unreported⟩ answered]
    constructor
    · rintro complete - other others same answers'
      obtain rfl := Option.some.inj same
      obtain rfl := Except.ok.inj (answers.symm.trans answers')
      exact complete
    · intro complete
      exact complete mode semantic answer rfl answers

namespace Sample

/-- An execution that found one contract. -/
def reviewResult : ExecutionResult where
  executionId := 2
  planId := 1
  status := .succeeded
  stepResults :=
    [{ stepId := "search"
       status := .succeeded
       startedAt := some 0
       completedAt := some 1
       consistent := rfl }]
  startedAt := 0
  completedAt := some 1
  consistent := by decide

/-- The sources of a review of the contract. -/
def reviewBundle : NarrativeSourceBundle where
  executionId := 2
  organizationId := 3
  classification := .confidential
  executionResult := reviewResult
  narrativeInput :=
    { steps := []
      evidence := []
      citations := []
      conflicts := []
      confidence := { level := .high, score := 90, reasonCodes := ["evidence_available"] }
      warnings := ["incomplete_citations"] }
  allowedEvidenceIds := ["register:contract-1"]
  allowedCitationIds := ["register:contract-1"]
  allowedStepIds := ["search"]
  consistent := by decide +kernel

/-- The request of the review. -/
def reviewRequest : NarrativeRequest where
  requestId := 5
  executionId := 2
  organizationId := 3
  actorId := 4
  correlationId := "review"
  classification := .confidential

/-- A sourced claim. -/
def reviewClaim : NarrativeClaim where
  claimId := "signed"
  claimType := .sourcedFact
  supportingEvidenceIds := ["register:contract-1"]
  supportingCitationIds := ["register:contract-1"]
  sourceStepIds := ["search"]
  sectionId := "summary"

/-- A draft of one sourced claim. -/
def reviewDraft : NarrativeDraft where
  requestId := 5
  executionId := 2
  sections :=
    [{ sectionId := "summary", body := "Signed.", order := 0, claimIds := ["signed"],
       citationUseIds := ["use"] }]
  claims := [reviewClaim]
  citationUses :=
    [{ citationUseId := "use"
       citationId := "register:contract-1"
       claimId := "signed"
       sectionId := "summary" }]
  warnings := ["incomplete_citations"]

/-- The request to validate its grounding. -/
def groundingRequest : GroundingValidationRequest where
  validationId := 6
  narrativeRequest := reviewRequest
  policy := {}
  sourceBundle := reviewBundle
  draft := reviewDraft
  generationOutcome := { generationId := 7, status := .succeeded, draft := some reviewDraft }
  issuedAt := 2
  deadline := 9
  generated := rfl
  sameDraft := rfl

/-- The context of the validation. -/
def groundingContext : GroundingValidationContext where
  validationId := 6
  requestId := 5
  generationId := 7
  executionId := 2
  organizationId := 3
  actorId := 4
  correlationId := "review"
  classification := .confidential
  issuedAt := 2
  startedAt := 3
  deadline := 9

/-- An answer with one assessment of the claim and of the citation use. -/
def answer (ofClaim ofUse : GroundingAssessment) : SemanticAnswer where
  claims := [{ claimId := "signed", claimType := .sourcedFact, assessment := ofClaim }]
  citations :=
    [{ citationUseId := "use"
       citationId := "register:contract-1"
       claimId := "signed"
       sectionId := "summary"
       assessment := ofUse }]
  disclosures := []

/-- The validation with an adapter that gives this answer. -/
def grounded (answer : SemanticAnswer) : Except GroundingError GroundingValidationResult :=
  validateGrounding (some fun _ _ => .ok answer) ⟨4, 5⟩ groundingRequest groundingContext

end Sample

/-- The answer that supports the claim and its citation is complete, and the valid
grounding is sound. -/
theorem grounding_sound_supported :
    ∃ result, Sample.grounded (Sample.answer .supported .supported) = .ok result ∧
      GroundingSound Sample.groundingRequest Sample.groundingContext result := by
  have computed : ((Sample.grounded (Sample.answer .supported .supported)).toOption.map
      (·.status)) = some .valid := by decide +kernel
  obtain ⟨result, isResult, valid⟩ := Option.map_eq_some_iff.mp computed
  have validated := eq_ok_of_mem_toOption isResult
  refine ⟨result, validated, (grounding_sound_iff validated valid).mpr ?_⟩
  rintro - semantic answer same answered
  obtain rfl := Option.some.inj same
  obtain rfl := Except.ok.inj answered
  exact ⟨by decide, by decide, by decide, by decide, by decide⟩

/-- An answer that leaves the claim inconclusive and does not support its citation still
makes the grounding valid. -/
theorem grounding_unsound :
    ∃ result, Sample.grounded (Sample.answer .inconclusive .unsupported) = .ok result ∧
      result.status = .valid ∧
        ¬ GroundingSound Sample.groundingRequest Sample.groundingContext result := by
  have computed : ((Sample.grounded (Sample.answer .inconclusive .unsupported)).toOption.map
      fun result => (result.status, result.citationAssessments.map (·.assessment))) =
        some (.valid, [.unsupported]) := by decide +kernel
  obtain ⟨result, isResult, shown⟩ := Option.map_eq_some_iff.mp computed
  obtain ⟨valid, citations⟩ := Prod.mk.inj shown
  refine ⟨result, eq_ok_of_mem_toOption isResult, valid, fun sound => ?_⟩
  have isAssessed : GroundingAssessment.unsupported ∈
      result.citationAssessments.map (·.assessment) := by
    rw [citations]
    decide
  obtain ⟨assessment, isAssessment, unsupported⟩ := List.mem_map.mp isAssessed
  have concluded := sound.citations assessment isAssessment
  rw [unsupported] at concluded
  exact concluded (by decide)

end PolicyOS.Intelligence
