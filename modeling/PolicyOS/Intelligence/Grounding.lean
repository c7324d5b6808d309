import PolicyOS.Intelligence.Narrative

/-!
# Grounding validation

A draft is grounded first by what it declares, against the identifiers of its sources
and the disclosures they require, and then, where the request asks for it, by a
semantic adapter whose assessments take the place of the declared ones. Issues of both
are kept. The clock is read before and after the adapter.
-/

namespace PolicyOS.Intelligence

open Foundation Execution

/-- Which validations a request asks for. -/
inductive ValidationMode
  | deterministicOnly | deterministicAndSemantic
  deriving DecidableEq, Repr

/-- What an assessment concludes. -/
inductive GroundingAssessment
  | supported | partiallySupported | unsupported | contradicted | inconclusive
  | validationUnavailable | notApplicable
  deriving DecidableEq, Repr

/-- The codes of grounding issues. -/
inductive GroundingIssueCode
  | unsupportedSourcedFact | inferenceNotMarked | recommendationMissingRationale
  | unknownEvidenceReference | unknownCitation | unknownSourceStep | missingRequiredCitation
  | citationNotLinkedToClaimEvidence | orphanCitationUse | citationSectionMismatch
  | conflictNotDisclosed | warningNotDisclosed | failureNotDisclosed | lowConfidenceNotDisclosed
  | semanticValidationUnavailable | semanticProviderFailed | semanticOutputInvalid
  | validationIssueLimitReached
  deriving DecidableEq, Repr

/-- The serialized code. -/
def GroundingIssueCode.value : GroundingIssueCode → String
  | unsupportedSourcedFact => "unsupported_sourced_fact"
  | inferenceNotMarked => "inference_not_marked"
  | recommendationMissingRationale => "recommendation_missing_rationale"
  | unknownEvidenceReference => "unknown_evidence_reference"
  | unknownCitation => "unknown_citation"
  | unknownSourceStep => "unknown_source_step"
  | missingRequiredCitation => "missing_required_citation"
  | citationNotLinkedToClaimEvidence => "citation_not_linked_to_claim_evidence"
  | orphanCitationUse => "orphan_citation_use"
  | citationSectionMismatch => "citation_section_mismatch"
  | conflictNotDisclosed => "conflict_not_disclosed"
  | warningNotDisclosed => "warning_not_disclosed"
  | failureNotDisclosed => "failure_not_disclosed"
  | lowConfidenceNotDisclosed => "low_confidence_not_disclosed"
  | semanticValidationUnavailable => "semantic_validation_unavailable"
  | semanticProviderFailed => "semantic_provider_failed"
  | semanticOutputInvalid => "semantic_output_invalid"
  | validationIssueLimitReached => "validation_issue_limit_reached"

/-- A defect of the grounding of a draft, and where it is. All are errors. -/
structure GroundingIssue where
  code : GroundingIssueCode
  assessment : GroundingAssessment
  safeMessage : String
  claimId : Option String := none
  citationId : Option String := none
  evidenceId : Option String := none
  sectionId : Option String := none
  sourceStepId : Option String := none
  deterministic : Bool := true
  deriving DecidableEq

/-- The assessment of a claim. -/
structure ClaimGroundingAssessment where
  claimId : String
  claimType : NarrativeClaimType
  assessment : GroundingAssessment
  supportingEvidenceIds : List String := []
  supportingCitationIds : List String := []
  sourceStepIds : List String := []
  issueCodes : List String := []
  deriving DecidableEq

/-- The assessment of a citation use. -/
structure CitationGroundingAssessment where
  citationUseId : String
  citationId : String
  claimId : String
  sectionId : String
  assessment : GroundingAssessment
  issueCodes : List String := []
  deriving DecidableEq

/-- Whether something that must be disclosed is. -/
structure DisclosureAssessment where
  disclosureType : String
  sourceReference : String
  required : Bool
  disclosed : Bool
  issueCode : Option GroundingIssueCode := none
  deriving DecidableEq

/-- A required disclosure is missing. -/
def DisclosureAssessment.missing (disclosure : DisclosureAssessment) : Prop :=
  disclosure.required = true ∧ disclosure.disclosed = false

instance (disclosure : DisclosureAssessment) : Decidable disclosure.missing :=
  inferInstanceAs (Decidable (_ ∧ _))

/-- The counts of a grounding validation. -/
structure GroundingStatistics where
  totalClaims : Nat
  supportedClaims : Nat
  partiallySupportedClaims : Nat
  unsupportedClaims : Nat
  contradictedClaims : Nat
  totalCitationUses : Nat
  validCitationUses : Nat
  invalidCitationUses : Nat
  requiredDisclosures : Nat
  missingDisclosures : Nat
  deterministicIssueCount : Nat
  semanticIssueCount : Nat
  errorCount : Nat
  warningCount : Nat := 0
  deriving DecidableEq

/-- How a narrative was generated. -/
inductive NarrativeGenerationStatus
  | succeeded | failed | timedOut | cancelled | invalidOutput
  deriving DecidableEq, Repr

/-- The outcome of the generation of a draft. -/
structure NarrativeGenerationOutcome where
  generationId : UUID
  status : NarrativeGenerationStatus
  draft : Option NarrativeDraft := none
  deriving DecidableEq

/-- The request to validate the grounding of a generated draft. -/
structure GroundingValidationRequest where
  validationId : UUID
  narrativeRequest : NarrativeRequest
  policy : NarrativePolicy
  sourceBundle : NarrativeSourceBundle
  draft : NarrativeDraft
  generationOutcome : NarrativeGenerationOutcome
  validationMode : ValidationMode := .deterministicAndSemantic
  issuedAt : DateTime
  deadline : DateTime
  deadlineFollows : issuedAt < deadline := by decide
  samePolicy : policy = narrativeRequest.policy := by decide
  validSource : sourceBundle.validateRequest narrativeRequest = .ok () := by decide
  generated : generationOutcome.status = .succeeded := by decide
  sameDraft : generationOutcome.draft = some draft := by decide
  sameRequest : draft.requestId = narrativeRequest.requestId := by decide

/-- The context a grounding validation runs in. -/
structure GroundingValidationContext where
  validationId : UUID
  requestId : UUID
  generationId : UUID
  executionId : UUID
  organizationId : UUID
  actorId : UUID
  correlationId : String
  classification : DataClassification
  issuedAt : DateTime
  startedAt : DateTime
  deadline : DateTime
  cancellationRequested : Bool := false
  validTimes : issuedAt ≤ startedAt ∧ startedAt < deadline := by decide

/-- How a grounding validation ended. -/
inductive GroundingValidationStatus
  | valid | invalid | inconclusive | timedOut | cancelled | failed
  deriving DecidableEq, Repr

/-- How its semantic part ended. -/
inductive SemanticValidationStatus
  | notRequested | succeeded | unavailable | failed | timedOut | cancelled
  deriving DecidableEq, Repr

/-- The result of a grounding validation. -/
structure GroundingValidationResult where
  validationId : UUID
  requestId : UUID
  generationId : UUID
  executionId : UUID
  status : GroundingValidationStatus
  semanticValidationStatus : SemanticValidationStatus
  issues : List GroundingIssue
  claimAssessments : List ClaimGroundingAssessment
  citationAssessments : List CitationGroundingAssessment
  disclosureAssessments : List DisclosureAssessment
  statistics : GroundingStatistics
  retryable : Bool := false
  startedAt : DateTime
  completedAt : DateTime
  errorCode : Option String := none
  errorMessage : Option String := none
  deriving DecidableEq

/-- The exception classes of a grounding validation. -/
inductive GroundingErrorKind
  | identity | classification | resultMismatch | validation | providerRaised
  deriving DecidableEq, Repr

/-- A typed failure of a grounding validation with its message. -/
structure GroundingError where
  kind : GroundingErrorKind
  message : String
  deriving DecidableEq, Repr

/-- What a semantic adapter answers. -/
structure SemanticAnswer where
  claims : List ClaimGroundingAssessment
  citations : List CitationGroundingAssessment
  disclosures : List DisclosureAssessment
  deriving DecidableEq

/-- What a semantic adapter raises: a grounding error with its code, or anything else. -/
inductive SemanticFailure
  | grounding (code safeMessage : String) (retryable : Bool)
  | other (message : String)
  deriving DecidableEq, Repr

/-- A semantic adapter. -/
abbrev SemanticGroundingAdapter :=
  GroundingValidationRequest → GroundingValidationContext → Except SemanticFailure SemanticAnswer

/-- The readings of the clock: before the adapter is asked, and after it answered. -/
structure ClockReadings where
  before : DateTime
  after : DateTime

/-! ## The declared grounding -/

/-- One code, when it applies. -/
def codeIf (applies : Prop) [Decidable applies] (code : GroundingIssueCode) :
    List GroundingIssueCode :=
  if applies then [code] else []

/-- The codes of an assessment, in order. -/
def issueCodeValues (codes : List GroundingIssueCode) : List String :=
  sortedSet (codes.map (·.value))

/-- Supported where there is no code. -/
def declaredAssessment (codes : List GroundingIssueCode) : GroundingAssessment :=
  if codes = [] then .supported else .unsupported

section Declared

variable (policy : NarrativePolicy) (source : NarrativeSourceBundle) (draft : NarrativeDraft)

/-- The references of a list that are not allowed, in order. -/
def unknownReferences (references allowed : List String) : List String :=
  sortedSet (references.filter (· ∉ allowed))

/-- The codes of a claim: what it lacks, and a code for every unknown reference. -/
def claimCodes (claim : NarrativeClaim) : List GroundingIssueCode :=
  codeIf (claim.claimType = .sourcedFact ∧ claim.supportingEvidenceIds = [])
      .unsupportedSourcedFact ++
    codeIf (policy.requireCitations = true ∧ claim.claimType = .sourcedFact ∧
      claim.supportingCitationIds = []) .missingRequiredCitation ++
    (unknownReferences claim.supportingEvidenceIds source.allowedEvidenceIds).map
      (fun _ => .unknownEvidenceReference) ++
    (unknownReferences claim.supportingCitationIds source.allowedCitationIds).map
      (fun _ => .unknownCitation) ++
    (unknownReferences claim.sourceStepIds source.allowedStepIds).map
      fun _ => .unknownSourceStep

/-- The issues of the unknown references of a claim. -/
def referenceIssues (claim : NarrativeClaim) : List GroundingIssue :=
  (unknownReferences claim.supportingEvidenceIds source.allowedEvidenceIds).map (fun item =>
      { code := .unknownEvidenceReference
        assessment := .unsupported
        safeMessage := "Claim references unknown evidence"
        claimId := some claim.claimId
        evidenceId := some item }) ++
    (unknownReferences claim.supportingCitationIds source.allowedCitationIds).map (fun item =>
      { code := .unknownCitation
        assessment := .unsupported
        safeMessage := "Claim references unknown citation"
        claimId := some claim.claimId
        citationId := some item }) ++
    (unknownReferences claim.sourceStepIds source.allowedStepIds).map fun item =>
      { code := .unknownSourceStep
        assessment := .unsupported
        safeMessage := "Claim references unknown source step"
        claimId := some claim.claimId
        sourceStepId := some item }

/-- The issues of a claim. Claims have identifiers of their own, so a code is already
reported only where a reference of this claim has it. -/
def claimGroundingIssues (claim : NarrativeClaim) : List GroundingIssue :=
  referenceIssues source claim ++
    ((claimCodes policy source claim).filter fun code =>
      ¬ ∃ issue ∈ referenceIssues source claim, issue.code = code).map fun code =>
        { code := code
          assessment := .unsupported
          safeMessage := "Claim lacks required declared support"
          claimId := some claim.claimId }

/-- The declared assessment of a claim. -/
def claimAssessment (claim : NarrativeClaim) : ClaimGroundingAssessment where
  claimId := claim.claimId
  claimType := claim.claimType
  assessment := declaredAssessment (claimCodes policy source claim)
  supportingEvidenceIds := claim.supportingEvidenceIds
  supportingCitationIds := claim.supportingCitationIds
  sourceStepIds := claim.sourceStepIds
  issueCodes := issueCodeValues (claimCodes policy source claim)

/-- The codes of a citation use. -/
def citationCodes (use : NarrativeCitationUse) : List GroundingIssueCode :=
  let claim := draft.claims.reverse.find? (·.claimId = use.claimId)
  codeIf (claim = none) .orphanCitationUse ++
    codeIf (¬ hasSection draft use.sectionId ∨
      ∃ own ∈ claim, use.sectionId ≠ own.sectionId) .citationSectionMismatch ++
    codeIf (use.citationId ∉ source.allowedCitationIds) .unknownCitation ++
    codeIf (∃ own ∈ claim, use.citationId ∉ own.supportingEvidenceIds)
      .citationNotLinkedToClaimEvidence

/-- The issues of a citation use. -/
def citationGroundingIssues (use : NarrativeCitationUse) : List GroundingIssue :=
  (citationCodes source draft use).map fun code =>
    { code := code
      assessment := .unsupported
      safeMessage := "Citation use is not grounded"
      claimId := some use.claimId
      citationId := some use.citationId
      sectionId := some use.sectionId }

/-- The declared assessment of a citation use. -/
def citationAssessment (use : NarrativeCitationUse) : CitationGroundingAssessment where
  citationUseId := use.citationUseId
  citationId := use.citationId
  claimId := use.claimId
  sectionId := use.sectionId
  assessment := declaredAssessment (citationCodes source draft use)
  issueCodes := issueCodeValues (citationCodes source draft use)

/-- A required disclosure, and the issue where it is missing. -/
def disclosure (disclosureType sourceReference : String) (disclosed : Bool)
    (code : GroundingIssueCode) (safeMessage : String) (evidenceId sourceStepId : Option String) :
    DisclosureAssessment × List GroundingIssue :=
  ({ disclosureType := disclosureType
     sourceReference := sourceReference
     required := true
     disclosed := disclosed
     issueCode := if disclosed then none else some code },
    if disclosed then []
    else
      [{ code := code
         assessment := .unsupported
         safeMessage := safeMessage
         evidenceId := evidenceId
         sourceStepId := sourceStepId }])

/-- The disclosure of a warning of the source. -/
def warningDisclosure (warning : String) : DisclosureAssessment × List GroundingIssue :=
  disclosure "warning" warning (warning ∈ draft.warnings) .warningNotDisclosed
    "Required warning is not disclosed" none none

/-- The disclosure of a conflict of the evidence. -/
def conflictDisclosure (conflict : EvidenceConflict) :
    DisclosureAssessment × List GroundingIssue :=
  disclosure "conflict" conflict.conflictCode (conflict.conflictCode ∈ draft.warnings)
    .conflictNotDisclosed "Required conflict is not disclosed"
    (some conflict.canonicalSourceId) none

/-- The disclosure of a low confidence, where the request asks for it. -/
def confidenceDisclosures (request : NarrativeRequest) :
    List (DisclosureAssessment × List GroundingIssue) :=
  let confidence := source.narrativeInput.confidence
  if request.includeConfidence = true ∧ confidence.score < policy.minimumConfidence then
    [disclosure "low_confidence" confidence.level.value
      (∃ claim ∈ draft.claims, claim.confidence.map Int.ofNat = some confidence.score)
      .lowConfidenceNotDisclosed "Low confidence is not disclosed" none none]
  else []

/-- The disclosure of a step that did not succeed. A step without an error that is not
named among the warnings leaves the flag without a value, which its model rejects. -/
def failureDisclosure (step : StepResult) :
    Except GroundingError (DisclosureAssessment × List GroundingIssue) := do
  let reference := "step_failure:" ++ step.stepId
  rejectIf (reference ∉ draft.warnings ∧ step.error = none)
    ⟨.validation, "Input should be a valid boolean"⟩
  pure (disclosure "failure" reference
    (reference ∈ draft.warnings ∨ ∃ error ∈ step.error, error.code ∈ draft.warnings)
    .failureNotDisclosed "Required step failure is not disclosed" none (some step.stepId))

/-- The disclosures of the steps that did not succeed, where the policy includes them. -/
def failureDisclosures :
    Except GroundingError (List (DisclosureAssessment × List GroundingIssue)) :=
  if policy.includeFailedSteps = true then
    collectEach (failureDisclosure draft)
      (source.executionResult.stepResults.filter (·.status ≠ .succeeded))
  else .ok []

end Declared

/-! ## The result -/

/-- What issues are deduplicated by. -/
def GroundingIssue.key (issue : GroundingIssue) : List String :=
  [issue.code.value, issue.claimId.getD "", issue.citationId.getD "", issue.evidenceId.getD "",
    issue.sectionId.getD "", issue.sourceStepId.getD ""]

/-- What issues are ordered by. -/
def GroundingIssue.order (issue : GroundingIssue) : List String :=
  [issue.code.value, issue.claimId.getD "", issue.citationId.getD "", issue.evidenceId.getD ""]

/-- The last issue where there are more than may be reported. -/
def groundingLimitReached : GroundingIssue where
  code := .validationIssueLimitReached
  assessment := .inconclusive
  safeMessage := "Grounding issue limit reached"

/-- The issues that are reported. -/
def boundedGroundingIssues (issues : List GroundingIssue) : List GroundingIssue :=
  capped maxValidationIssues groundingLimitReached
    (sortedBy GroundingIssue.order (lastByKey GroundingIssue.key issues))

/-- The counts over assessments and issues. -/
def groundingStatistics (issues : List GroundingIssue) (claims : List ClaimGroundingAssessment)
    (citations : List CitationGroundingAssessment) (disclosures : List DisclosureAssessment) :
    GroundingStatistics where
  totalClaims := claims.length
  supportedClaims := claims.countP (·.assessment = .supported)
  partiallySupportedClaims := claims.countP (·.assessment = .partiallySupported)
  unsupportedClaims := claims.countP (·.assessment = .unsupported)
  contradictedClaims := claims.countP (·.assessment = .contradicted)
  totalCitationUses := citations.length
  validCitationUses := citations.countP (·.assessment = .supported)
  invalidCitationUses := citations.countP (·.assessment ≠ .supported)
  requiredDisclosures := disclosures.countP (·.required)
  missingDisclosures := disclosures.countP (·.missing)
  deterministicIssueCount := issues.countP (·.deterministic)
  semanticIssueCount := issues.countP (·.deterministic = false)
  errorCount := issues.length

/-- The bounds of the counts. -/
def GroundingStatistics.bounded (statistics : GroundingStatistics) : Except GroundingError Unit := do
  rejectIf (statistics.totalClaims > 500)
    ⟨.validation, "Input should be less than or equal to 500"⟩
  rejectIf (statistics.totalCitationUses > 1000 ∨ statistics.requiredDisclosures > 1000)
    ⟨.validation, "Input should be less than or equal to 1000"⟩

/-- What is added to a result beyond its assessments. -/
structure GroundingEnd where
  semanticStatus : SemanticValidationStatus
  completed : DateTime
  status : Option GroundingValidationStatus := none
  errorCode : Option String := none
  errorMessage : Option String := none
  retryable : Bool := false

/-- The status of a result that is not given one. -/
def groundingStatus (mode : ValidationMode) (semanticStatus : SemanticValidationStatus)
    (issues : List GroundingIssue) : GroundingValidationStatus :=
  if issues ≠ [] then .invalid
  else if mode = .deterministicAndSemantic ∧ semanticStatus ≠ .succeeded then .inconclusive
  else .valid

/-- Build the result of issues and assessments. -/
def groundingResult (request : GroundingValidationRequest) (context : GroundingValidationContext)
    (issues : List GroundingIssue) (claims : List ClaimGroundingAssessment)
    (citations : List CitationGroundingAssessment) (disclosures : List DisclosureAssessment)
    (ending : GroundingEnd) : Except GroundingError GroundingValidationResult := do
  let ordered := boundedGroundingIssues issues
  let statistics := groundingStatistics ordered claims citations disclosures
  statistics.bounded
  rejectIf (ending.completed < context.startedAt)
    ⟨.validation, "Grounding completion cannot precede start"⟩
  pure
    { validationId := request.validationId
      requestId := context.requestId
      generationId := context.generationId
      executionId := context.executionId
      status := ending.status.getD
        (groundingStatus request.validationMode ending.semanticStatus ordered)
      semanticValidationStatus := ending.semanticStatus
      issues := ordered
      claimAssessments := sortedBy (·.claimId) claims
      citationAssessments := sortedBy (·.citationUseId) citations
      disclosureAssessments :=
        sortedBy (fun item => [item.disclosureType, item.sourceReference]) disclosures
      statistics := statistics
      retryable := ending.retryable
      startedAt := context.startedAt
      completedAt := ending.completed
      errorCode := ending.errorCode
      errorMessage := ending.errorMessage }

/-- A request and its context must name the same things, at one classification. -/
def validateGroundingIdentity (request : GroundingValidationRequest)
    (context : GroundingValidationContext) : Except GroundingError Unit := do
  let narrative := request.narrativeRequest
  rejectIf (request.validationId ≠ context.validationId ∨
      narrative.requestId ≠ context.requestId ∨
      request.generationOutcome.generationId ≠ context.generationId ∨
      narrative.executionId ≠ context.executionId ∨
      narrative.organizationId ≠ context.organizationId ∨
      narrative.actorId ≠ context.actorId ∨
      narrative.correlationId ≠ context.correlationId)
    ⟨.identity, "Grounding request and context identities differ"⟩
  raisingInstead (do
      requireNotLower context.classification narrative.classification "classification"
      requireNotLower narrative.classification context.classification "classification")
    ⟨.classification, "Grounding classification mismatch"⟩

/-- All declared disclosures of a request. -/
def declaredDisclosures (request : GroundingValidationRequest) :
    Except GroundingError (List (DisclosureAssessment × List GroundingIssue)) := do
  let source := request.sourceBundle
  let failures ← failureDisclosures request.policy source request.draft
  pure (source.narrativeInput.warnings.map (warningDisclosure request.draft) ++
    source.narrativeInput.conflicts.map (conflictDisclosure request.draft) ++
    confidenceDisclosures request.policy source request.draft request.narrativeRequest ++ failures)

/-- All declared issues of a request. -/
def declaredIssues (request : GroundingValidationRequest)
    (disclosures : List (DisclosureAssessment × List GroundingIssue)) : List GroundingIssue :=
  request.draft.claims.flatMap (claimGroundingIssues request.policy request.sourceBundle) ++
    request.draft.citationUses.flatMap
      (citationGroundingIssues request.sourceBundle request.draft) ++
    disclosures.flatMap (·.2)

/-- Validate what a draft declares. -/
def validateGroundingDeterministically (request : GroundingValidationRequest)
    (context : GroundingValidationContext) : Except GroundingError GroundingValidationResult := do
  validateGroundingIdentity request context
  let disclosures ← declaredDisclosures request
  groundingResult request context (declaredIssues request disclosures)
    (request.draft.claims.map (claimAssessment request.policy request.sourceBundle))
    (request.draft.citationUses.map (citationAssessment request.sourceBundle request.draft))
    (disclosures.map (·.1))
    { semanticStatus := .notRequested, completed := context.startedAt }

/-! ## The semantic grounding -/

/-- The issue of a semantic validation that did not happen. -/
def semanticIssue (code : GroundingIssueCode) (safeMessage : String) : GroundingIssue where
  code := code
  assessment := .validationUnavailable
  safeMessage := safeMessage
  deterministic := false

/-- The issue of a claim the adapter does not support. -/
def claimSupportIssues (item : ClaimGroundingAssessment) : List GroundingIssue :=
  if item.assessment ∈ [.unsupported, .contradicted, .partiallySupported] then
    [{ code := .unsupportedSourcedFact
       assessment := item.assessment
       safeMessage := "Semantic claim support is insufficient"
       claimId := some item.claimId
       deterministic := false }]
  else []

/-- The result of a validation whose time is over. -/
def timedOut (deterministic : GroundingValidationResult) (completedAt : DateTime)
    (errorCode errorMessage : Option String) : GroundingValidationResult :=
  { deterministic with
    status := .timedOut
    semanticValidationStatus := .timedOut
    completedAt := completedAt
    retryable := true
    errorCode := errorCode
    errorMessage := errorMessage }

/-- Validate what the adapter answered, over what is declared. -/
def validateSemantically (request : GroundingValidationRequest)
    (context : GroundingValidationContext) (deterministic : GroundingValidationResult)
    (answer : SemanticAnswer) (completed : DateTime) :
    Except GroundingError GroundingValidationResult := do
  if completed ≥ context.deadline then
    pure (timedOut deterministic completed deterministic.errorCode deterministic.errorMessage)
  else
    rejectIf (¬ (answer.claims.map (·.claimId) ⊆ request.draft.claims.map (·.claimId) ∧
        request.draft.claims.map (·.claimId) ⊆ answer.claims.map (·.claimId)))
      ⟨.resultMismatch, "Semantic claim assessments do not match draft"⟩
    groundingResult request context
      (deterministic.issues ++ answer.claims.flatMap claimSupportIssues)
      answer.claims answer.citations answer.disclosures
      { semanticStatus := .succeeded, completed := completed }

/-- Validate the grounding of a draft. -/
def validateGrounding (adapter : Option SemanticGroundingAdapter) (clock : ClockReadings)
    (request : GroundingValidationRequest) (context : GroundingValidationContext) :
    Except GroundingError GroundingValidationResult := do
  let deterministic ← validateGroundingDeterministically request context
  if request.validationMode = .deterministicOnly then
    pure { deterministic with completedAt := clock.before }
  else if context.cancellationRequested = true then
    pure
      { deterministic with
        status := .cancelled
        semanticValidationStatus := .cancelled
        completedAt := clock.before
        errorCode := some "grounding_cancelled"
        errorMessage := some "Semantic grounding was cancelled" }
  else if clock.before ≥ context.deadline then
    pure (timedOut deterministic clock.before (some "grounding_deadline_exceeded")
      (some "Semantic grounding deadline exceeded"))
  else
    match adapter with
    | none =>
        groundingResult request context
          (deterministic.issues ++
            [semanticIssue .semanticValidationUnavailable "Semantic grounding is unavailable"])
          deterministic.claimAssessments deterministic.citationAssessments
          deterministic.disclosureAssessments
          { semanticStatus := .unavailable
            completed := clock.before
            status := some .inconclusive }
    | some adapter =>
        match adapter request context with
        | .error (.other message) => .error ⟨.providerRaised, message⟩
        | .error (.grounding code safeMessage retryable) =>
            groundingResult request context
              (deterministic.issues ++
                [semanticIssue .semanticProviderFailed "Semantic grounding provider failed"])
              deterministic.claimAssessments deterministic.citationAssessments
              deterministic.disclosureAssessments
              { semanticStatus := .failed
                completed := clock.after
                status := some .inconclusive
                errorCode := some code
                errorMessage := some safeMessage
                retryable := retryable }
        | .ok answer => validateSemantically request context deterministic answer clock.after

end PolicyOS.Intelligence
