import PolicyOS.Intelligence.Grounding

/-!
# Reflection

The advisory review of a draft over its structural and its grounding validation. Every
error of either becomes a finding; the disposition follows from the findings, from the
status of the grounding and from whether the review was cancelled.
-/

namespace PolicyOS.Intelligence

open Foundation Execution

/-- The bound of the findings of a review. -/
def maxFindings : Nat := 200

/-- What a finding is about. -/
inductive ReflectionCategory
  | structure_ | grounding | citation | disclosure | confidence | humanReview
  deriving DecidableEq, Repr

/-- How severe a finding is. -/
inductive ReflectionSeverity
  | error | warning | info
  deriving DecidableEq, Repr

/-- How urgent a finding is. -/
inductive ReflectionPriority
  | critical | high | medium | low
  deriving DecidableEq, Repr

/-- The serialized priority. -/
def ReflectionPriority.value : ReflectionPriority → String
  | critical => "critical"
  | high => "high"
  | medium => "medium"
  | low => "low"

/-- The codes of findings. -/
inductive ReflectionFindingCode
  | structuralValidationFailed | unsupportedClaim | partiallySupportedClaim | contradictedClaim
  | inconclusiveClaim | semanticValidationUnavailable | citationNotSupportingClaim
  | conflictDisclosureMissing | warningDisclosureMissing | lowConfidenceDisclosureMissing
  | failureDisclosureMissing
  deriving DecidableEq, Repr

/-- The serialized code. -/
def ReflectionFindingCode.value : ReflectionFindingCode → String
  | structuralValidationFailed => "structural_validation_failed"
  | unsupportedClaim => "unsupported_claim"
  | partiallySupportedClaim => "partially_supported_claim"
  | contradictedClaim => "contradicted_claim"
  | inconclusiveClaim => "inconclusive_claim"
  | semanticValidationUnavailable => "semantic_validation_unavailable"
  | citationNotSupportingClaim => "citation_not_supporting_claim"
  | conflictDisclosureMissing => "conflict_disclosure_missing"
  | warningDisclosureMissing => "warning_disclosure_missing"
  | lowConfidenceDisclosureMissing => "low_confidence_disclosure_missing"
  | failureDisclosureMissing => "failure_disclosure_missing"

/-- What a revision should do. -/
inductive RevisionAction
  | reviseSection | reviseClaim | removeUnsupportedClaim | correctCitationLinkage
  | discloseConflict | discloseWarning | discloseLowConfidence | discloseFailure
  | regenerateDraft | requestHumanReview
  deriving DecidableEq, Repr

/-- The serialized action. -/
def RevisionAction.value : RevisionAction → String
  | reviseSection => "revise_section"
  | reviseClaim => "revise_claim"
  | removeUnsupportedClaim => "remove_unsupported_claim"
  | correctCitationLinkage => "correct_citation_linkage"
  | discloseConflict => "disclose_conflict"
  | discloseWarning => "disclose_warning"
  | discloseLowConfidence => "disclose_low_confidence"
  | discloseFailure => "disclose_failure"
  | regenerateDraft => "regenerate_draft"
  | requestHumanReview => "request_human_review"

/-- What a review recommends. -/
inductive ReviewDisposition
  | approve | approveWithWarnings | targetedRevision | regenerate | humanReview | reject
  | inconclusive
  deriving DecidableEq, Repr

/-- How much of a draft a revision touches. -/
inductive RevisionScope
  | none | localized | multiSection | fullDraft
  deriving DecidableEq, Repr

/-- A finding of a review. -/
structure ReflectionFinding where
  findingId : String
  code : ReflectionFindingCode
  category : ReflectionCategory
  severity : ReflectionSeverity
  priority : ReflectionPriority
  safeMessage : String
  sectionId : Option String := none
  claimId : Option String := none
  citationId : Option String := none
  sourceIssueCodes : List String
  recommendedAction : RevisionAction
  blocksApproval : Bool
  requiresHumanReview : Bool := false
  publicRationale : Option String := none
  deriving DecidableEq

/-- An instruction that resolves a finding. -/
structure RevisionInstruction where
  instructionId : String
  action : RevisionAction
  priority : ReflectionPriority
  sectionId : Option String := none
  claimId : Option String := none
  citationId : Option String := none
  sourceFindingIds : List String
  safeInstruction : String
  expectedResolutionCodes : List ReflectionFindingCode
  requiresRegeneration : Bool := false
  requiresHumanReview : Bool := false
  deriving DecidableEq

/-- What is to be done about the findings. -/
structure RevisionPlan where
  disposition : ReviewDisposition
  instructions : List RevisionInstruction
  blockingFindingIds : List String
  requiredHumanReview : Bool
  regenerationRecommended : Bool
  estimatedScope : RevisionScope
  safeSummary : String
  deriving DecidableEq

/-- The counts over the findings of a review. -/
structure ReflectionStatistics where
  totalFindings : Nat
  errorCount : Nat
  warningCount : Nat
  blockingCount : Nat
  criticalCount : Nat
  instructionCount : Nat
  deriving DecidableEq

/-- The request of a review. -/
structure ReflectionRequest where
  reflectionId : UUID
  narrativeRequest : NarrativeRequest
  policy : NarrativePolicy
  sourceBundle : NarrativeSourceBundle
  draft : NarrativeDraft
  structuralValidation : NarrativeValidationResult
  groundingValidation : GroundingValidationResult
  issuedAt : DateTime
  deadline : DateTime
  deadlineFollows : issuedAt < deadline := by decide
  samePolicy : policy = narrativeRequest.policy := by decide
  validSource : sourceBundle.validateRequest narrativeRequest = .ok () := by decide
  sameIdentities : draft.requestId = narrativeRequest.requestId ∧
    draft.executionId = narrativeRequest.executionId ∧
    groundingValidation.requestId = narrativeRequest.requestId ∧
    groundingValidation.executionId = draft.executionId := by decide

/-- The context a review runs in. -/
structure ReflectionContext where
  reflectionId : UUID
  requestId : UUID
  generationId : UUID
  validationId : UUID
  executionId : UUID
  organizationId : UUID
  actorId : UUID
  correlationId : String
  classification : DataClassification
  issuedAt : DateTime
  startedAt : DateTime
  deadline : DateTime
  cancellationRequested : Bool := false
  validTimes : issuedAt ≤ startedAt ∧ startedAt < deadline := by decide

/-- The result of a review. -/
structure ReflectionResult where
  reflectionId : UUID
  requestId : UUID
  generationId : UUID
  validationId : UUID
  executionId : UUID
  findings : List ReflectionFinding
  revisionPlan : RevisionPlan
  statistics : ReflectionStatistics
  startedAt : DateTime
  completedAt : DateTime
  cancelled : Bool := false
  deriving DecidableEq

/-- The review recommends approval. -/
def ReflectionResult.approvalRecommended (result : ReflectionResult) : Prop :=
  result.revisionPlan.disposition ∈ [.approve, .approveWithWarnings]

instance (result : ReflectionResult) : Decidable result.approvalRecommended :=
  inferInstanceAs (Decidable (_ ∈ _))

/-- The exception classes of a review. -/
inductive ReflectionErrorKind
  | identity | classification | validation
  deriving DecidableEq, Repr

/-- A typed failure of a review with its message. -/
structure ReflectionError where
  kind : ReflectionErrorKind
  message : String
  deriving DecidableEq, Repr

/-! ## Findings -/

/-- An index in at least four digits. -/
def fourDigits (index : Nat) : String := String.leftpad 4 '0' (toString index)

/-- A finding, from an issue and the assessment it has. All findings block approval. -/
def finding (index : Nat) (code : ReflectionFindingCode) (category : ReflectionCategory)
    (action : RevisionAction) (issueCode : String)
    (claimId sectionId citationId : Option String)
    (assessment : Option GroundingAssessment) : ReflectionFinding where
  findingId := "finding." ++ fourDigits index ++ "." ++ code.value
  code := code
  category := category
  severity := .error
  priority := if assessment = some .contradicted then .critical else .high
  safeMessage := "Validated review issue requires advisory action"
  sectionId := sectionId
  claimId := claimId
  citationId := citationId
  sourceIssueCodes := [issueCode]
  recommendedAction := action
  blocksApproval := true
  requiresHumanReview := assessment = some .contradicted
  publicRationale := some "The supplied validation result identifies a material issue."

/-- The finding of a structural error. -/
def structuralFinding (index : Nat) (issue : NarrativeValidationIssue) : ReflectionFinding :=
  finding index .structuralValidationFailed .structure_ .reviseSection issue.code issue.claimId
    issue.sectionId issue.citationId none

/-- What a grounding issue means for a review. -/
def groundingMeaning :
    GroundingIssueCode → ReflectionFindingCode × ReflectionCategory × RevisionAction
  | .conflictNotDisclosed => (.conflictDisclosureMissing, .disclosure, .discloseConflict)
  | .warningNotDisclosed => (.warningDisclosureMissing, .disclosure, .discloseWarning)
  | .lowConfidenceNotDisclosed =>
      (.lowConfidenceDisclosureMissing, .confidence, .discloseLowConfidence)
  | .failureNotDisclosed => (.failureDisclosureMissing, .disclosure, .discloseFailure)
  | .semanticValidationUnavailable =>
      (.semanticValidationUnavailable, .humanReview, .requestHumanReview)
  | .citationNotLinkedToClaimEvidence =>
      (.citationNotSupportingClaim, .citation, .correctCitationLinkage)
  | _ => (.unsupportedClaim, .grounding, .reviseClaim)

/-- The finding of a grounding issue. -/
def groundingFinding (index : Nat) (issue : GroundingIssue) : ReflectionFinding :=
  let (meant, category, meantAction) := groundingMeaning issue.code
  let (code, action) :=
    if issue.assessment = .contradicted then
      (ReflectionFindingCode.contradictedClaim, RevisionAction.removeUnsupportedClaim)
    else if issue.assessment = .partiallySupported then (.partiallySupportedClaim, meantAction)
    else (meant, meantAction)
  finding index code category action issue.code.value issue.claimId issue.sectionId
    issue.citationId (some issue.assessment)

/-- The findings of a review, in the order they are made. -/
def madeFindings (request : ReflectionRequest) : List ReflectionFinding :=
  let errors := request.structuralValidation.issues.filter (·.severity = .error)
  errors.mapIdx structuralFinding ++
    request.groundingValidation.issues.mapIdx fun index =>
      groundingFinding (errors.length + index)

/-- What findings are ordered by. -/
def ReflectionFinding.order (finding : ReflectionFinding) : List String :=
  [finding.priority.value, finding.code.value, finding.findingId]

/-- The disposition of findings. -/
def disposition (request : ReflectionRequest) (findings : List ReflectionFinding)
    (cancelled : Bool) : ReviewDisposition :=
  if cancelled then .inconclusive
  else if request.groundingValidation.status ∈ [.inconclusive, .failed, .timedOut, .cancelled] then
    .inconclusive
  else if ∃ finding ∈ findings, finding.requiresHumanReview = true then .humanReview
  else if findings.countP (·.blocksApproval) ≥ 5 then .regenerate
  else if ∃ finding ∈ findings, finding.blocksApproval = true then .targetedRevision
  else if findings ≠ [] then .approveWithWarnings
  else .approve

/-! ## The review -/

/-- The text of an instruction. -/
def instructionText (finding : ReflectionFinding) : String :=
  "Apply " ++ finding.recommendedAction.value ++ " to resolve finding " ++ finding.findingId ++
    " while preserving approved source references."

/-- The instruction of a finding. -/
def revisionInstruction (disposition : ReviewDisposition) (index : Nat)
    (finding : ReflectionFinding) : RevisionInstruction where
  instructionId := "instruction." ++ fourDigits index ++ "." ++ finding.code.value
  action := finding.recommendedAction
  priority := finding.priority
  sectionId := finding.sectionId
  claimId := finding.claimId
  citationId := finding.citationId
  sourceFindingIds := [finding.findingId]
  safeInstruction := instructionText finding
  expectedResolutionCodes := [finding.code]
  requiresRegeneration := disposition = .regenerate
  requiresHumanReview := finding.requiresHumanReview

/-- The scope of findings. -/
def revisionScope (disposition : ReviewDisposition) (findings : List ReflectionFinding) :
    RevisionScope :=
  if findings = [] then .none
  else if disposition = .regenerate then .fullDraft
  else if findings.length = 1 then .localized
  else .multiSection

/-- The plan of findings. -/
def revisionPlan (disposition : ReviewDisposition) (findings : List ReflectionFinding) :
    RevisionPlan where
  disposition := disposition
  instructions := findings.mapIdx (revisionInstruction disposition)
  blockingFindingIds := (findings.filter (·.blocksApproval)).map (·.findingId)
  requiredHumanReview := disposition = .humanReview
  regenerationRecommended := disposition = .regenerate
  estimatedScope := revisionScope disposition findings
  safeSummary := "Advisory review completed without modifying the draft."

/-- The counts of findings. -/
def reflectionStatistics (findings : List ReflectionFinding) : ReflectionStatistics where
  totalFindings := findings.length
  errorCount := findings.countP (·.severity = .error)
  warningCount := findings.countP (·.severity = .warning)
  blockingCount := findings.countP (·.blocksApproval)
  criticalCount := findings.countP (·.priority = .critical)
  instructionCount := findings.length

/-- A request and its context must name the same things, at one classification. -/
def validateReflectionIdentity (request : ReflectionRequest) (context : ReflectionContext) :
    Except ReflectionError Unit := do
  let narrative := request.narrativeRequest
  let grounding := request.groundingValidation
  rejectIf (request.reflectionId ≠ context.reflectionId ∨
      narrative.requestId ≠ context.requestId ∨
      grounding.generationId ≠ context.generationId ∨
      grounding.validationId ≠ context.validationId ∨
      narrative.executionId ≠ context.executionId ∨
      narrative.organizationId ≠ context.organizationId ∨
      narrative.actorId ≠ context.actorId ∨
      narrative.correlationId ≠ context.correlationId)
    ⟨.identity, "Reflection request and context identities differ"⟩
  raisingInstead (do
      requireNotLower context.classification narrative.classification "classification"
      requireNotLower narrative.classification context.classification "classification")
    ⟨.classification, "Reflection classification mismatch"⟩

/-- Review a draft over its validations. -/
def reflectDeterministically (request : ReflectionRequest) (context : ReflectionContext) :
    Except ReflectionError ReflectionResult := do
  validateReflectionIdentity request context
  let findings := sortedBy ReflectionFinding.order (madeFindings request)
  rejectIf (findings.length > maxFindings)
    ⟨.validation, "Input should be less than or equal to 200"⟩
  pure
    { reflectionId := request.reflectionId
      requestId := context.requestId
      generationId := context.generationId
      validationId := context.validationId
      executionId := context.executionId
      findings := findings
      revisionPlan :=
        revisionPlan (disposition request findings context.cancellationRequested) findings
      statistics := reflectionStatistics findings
      startedAt := context.startedAt
      completedAt := context.startedAt
      cancelled := context.cancellationRequested }

end PolicyOS.Intelligence
