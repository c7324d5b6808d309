import PolicyOS.Execution.Synthesis
import PolicyOS.Foundation.Reports

/-!
# Narrative source bundle

What a narrative may be written from: an execution result with the narrative input
it was assembled with, and the identifiers a draft may refer to. The classification
is the caller's, and must not be below that of the evidence.
-/

namespace PolicyOS.Intelligence

open Foundation Execution

/-- The exception classes of narrative contracts. -/
inductive NarrativeErrorKind
  | identity | source | classification | evidenceGraph
  deriving DecidableEq, Repr

/-- A typed failure of a narrative contract with its message. -/
structure NarrativeError where
  kind : NarrativeErrorKind
  message : String
  deriving DecidableEq, Repr

/-- The data of a source bundle. -/
structure NarrativeSourceBundleFields where
  executionId : UUID
  organizationId : UUID
  classification : DataClassification
  executionResult : ExecutionResult
  narrativeInput : NarrativeInput
  allowedEvidenceIds : List String
  allowedCitationIds : List String
  allowedStepIds : List String
  deriving DecidableEq

/-- The checks a source bundle makes on itself. -/
def NarrativeSourceBundleFields.consistentIdentity (bundle : NarrativeSourceBundleFields) :
    Except NarrativeError Unit := do
  rejectIf (bundle.executionId ≠ bundle.executionResult.executionId)
    ⟨.identity, "Source bundle execution identity does not match result"⟩
  rejectIf (sortedSet bundle.allowedEvidenceIds ≠ bundle.allowedEvidenceIds)
    ⟨.source, "Allowed evidence IDs must be canonical"⟩
  rejectIf (sortedSet bundle.allowedCitationIds ≠ bundle.allowedCitationIds)
    ⟨.source, "Allowed citation IDs must be canonical"⟩
  rejectIf (sortedSet bundle.allowedStepIds ≠ bundle.allowedStepIds)
    ⟨.source, "Allowed step IDs must be canonical"⟩

/-- What a narrative may be written from. -/
structure NarrativeSourceBundle extends NarrativeSourceBundleFields where
  consistent : toNarrativeSourceBundleFields.consistentIdentity = .ok () := by decide
  deriving DecidableEq

/-- Build a source bundle, raising what it checks on itself. -/
def NarrativeSourceBundle.validated (fields : NarrativeSourceBundleFields) :
    Except NarrativeError NarrativeSourceBundle :=
  buildChecked fields.consistentIdentity fun consistent =>
    { toNarrativeSourceBundleFields := fields, consistent }

/-- A failed synthesis in a narrative contract. -/
def fromSynthesis {Value : Type} (result : Except SynthesisError Value) :
    Except NarrativeError Value :=
  result.mapError fun error => ⟨.evidenceGraph, error.message⟩

/-- What the synthesis accepts the narrative accepts. -/
@[simp] theorem fromSynthesis_eq_ok_iff {Value : Type} {result : Except SynthesisError Value}
    {value : Value} : fromSynthesis result = .ok value ↔ result = .ok value :=
  mapError_eq_ok_iff

/-- The identities of references, in order. -/
def sourceIds (casefold : String → String) (evidence : List EvidenceReference) :
    Except NarrativeError (List String) := do
  let ids ← fromSynthesis (collectEach (canonicalSourceId casefold) evidence)
  pure (sortedBy id ids)

/-- The steps of a result that succeeded. -/
def successfulStepIds (executionResult : ExecutionResult) : List String :=
  (executionResult.stepResults.filter (·.status = .succeeded)).map (·.stepId)

/-- A classification may not be below that of a reference. -/
def requireEvidenceNotLower (classification : DataClassification)
    (evidence : EvidenceReference) : Except NarrativeError Unit :=
  raisingInstead (requireNotLower classification evidence.classification "classification")
    ⟨.classification, "Source bundle classification cannot downgrade evidence"⟩

/-- Build a bundle of a result and the narrative input that belongs to it. -/
def buildNarrativeSourceBundle (casefold : String → String) (executionResult : ExecutionResult)
    (narrativeInput : NarrativeInput) (organizationId : UUID)
    (classification : DataClassification) : Except NarrativeError NarrativeSourceBundle := do
  rejectIf (executionResult.finalOutput ≠ narrativeInput.modelDump)
    ⟨.identity, "Narrative input does not belong to the execution result"⟩
  let evidenceIds ← sourceIds casefold narrativeInput.evidence
  let resultEvidenceIds ← sourceIds casefold executionResult.evidence
  rejectIf (¬ evidenceIds.Nodup ∨ evidenceIds ≠ resultEvidenceIds)
    ⟨.source, "Narrative evidence does not match execution result evidence"⟩
  let citationIds := sortedBy id (narrativeInput.citations.map (·.canonicalSourceId))
  rejectIf (¬ citationIds.Nodup ∨ ¬ citationIds ⊆ evidenceIds)
    ⟨.source, "Narrative citations do not match execution evidence"⟩
  let stepIds := sortedBy id (narrativeInput.steps.map (·.stepId))
  rejectIf (¬ stepIds.Nodup ∨ ¬ stepIds ⊆ successfulStepIds executionResult)
    ⟨.source, "Narrative steps do not match successful execution steps"⟩
  checkEach (requireEvidenceNotLower classification) narrativeInput.evidence
  NarrativeSourceBundle.validated
    { executionId := executionResult.executionId
      organizationId := organizationId
      classification := classification
      executionResult := executionResult
      narrativeInput := narrativeInput
      allowedEvidenceIds := evidenceIds
      allowedCitationIds := citationIds
      allowedStepIds := stepIds }

/-!
# Narrative drafts

The request of a narrative, the draft written for it, and the structural validation
of the draft against its sources. Issues are collected over the whole draft,
deduplicated, put in order and bounded.
-/

/-- The bounds of a draft and of its issues. -/
def maxSections : Nat := 20
def maxClaims : Nat := 500
def maxCitationUses : Nat := 1000
def maxValidationIssues : Nat := 200

/-- What a claim states. -/
inductive NarrativeClaimType
  | sourcedFact | inference | recommendation | summary | proceduralStatement
  deriving DecidableEq, Repr

/-- How severe an issue is. -/
inductive ValidationSeverity
  | error | warning | info
  deriving DecidableEq, Repr

/-- The serialized severity. -/
def ValidationSeverity.value : ValidationSeverity → String
  | error => "error"
  | warning => "warning"
  | info => "info"

/-- What a narrative must keep to. -/
structure NarrativePolicy where
  requireCitations : Bool := true
  requireEvidenceForFactualClaims : Bool := true
  allowInference : Bool := true
  markInferences : Bool := true
  allowRecommendations : Bool := true
  includeConflicts : Bool := true
  includeFailedSteps : Bool := true
  minimumConfidence : Nat := 0
  maximumClaims : Nat := maxClaims
  maximumSections : Nat := maxSections
  maximumCitations : Nat := maxCitationUses
  maximumOutputCharacters : Nat := 200000
  citationsNeedEvidence : requireCitations = true → requireEvidenceForFactualClaims = true := by
    decide
  inferencesMarked : allowInference = true → markInferences = true := by decide
  deriving DecidableEq

/-- The request of a narrative. -/
structure NarrativeRequest where
  requestId : UUID
  executionId : UUID
  organizationId : UUID
  actorId : UUID
  correlationId : String
  includeCitations : Bool := true
  includeWarnings : Bool := true
  includeConfidence : Bool := true
  classification : DataClassification
  policy : NarrativePolicy := {}
  citationsIncluded : policy.requireCitations = true → includeCitations = true := by decide
  deriving DecidableEq

/-- A request must be for the execution of a bundle, and not below its classification. -/
def NarrativeSourceBundle.validateRequest (bundle : NarrativeSourceBundle)
    (request : NarrativeRequest) : Except NarrativeError Unit := do
  rejectIf (request.executionId ≠ bundle.executionId ∨
      request.organizationId ≠ bundle.organizationId)
    ⟨.identity, "Narrative request identity does not match source bundle"⟩
  raisingInstead (requireNotLower request.classification bundle.classification "classification")
    ⟨.classification, "Narrative request classification cannot downgrade source data"⟩

/-- What a section must be, and may state. -/
structure NarrativeSectionPlan where
  sectionId : String
  required : Bool := true
  allowedClaimTypes : List NarrativeClaimType
  maximumCharacters : Nat := 50000
  deriving DecidableEq

/-- One statement of a draft, with the sources it refers to. -/
structure NarrativeClaim where
  claimId : String
  claimType : NarrativeClaimType
  supportingEvidenceIds : List String := []
  supportingCitationIds : List String := []
  sourceStepIds : List String := []
  inference : Bool := false
  confidence : Option Nat := none
  sectionId : String
  rationale : Option String := none
  markedInference : inference = true ↔ claimType = .inference := by decide
  recommendationRationale : claimType = .recommendation → rationale ≠ none := by decide
  deriving DecidableEq

/-- One use of a citation. -/
structure NarrativeCitationUse where
  citationUseId : String
  citationId : String
  claimId : String
  sectionId : String
  deriving DecidableEq

/-- A section of prose. -/
structure NarrativeSection where
  sectionId : String
  body : String
  order : Nat
  claimIds : List String := []
  citationUseIds : List String := []
  deriving DecidableEq

/-- A draft: prose, the claims it makes and the citations it uses. -/
structure NarrativeDraft where
  requestId : UUID
  executionId : UUID
  sections : List NarrativeSection
  claims : List NarrativeClaim := []
  citationUses : List NarrativeCitationUse := []
  warnings : List String := []
  boundedSections : sections.length ≤ maxSections := by decide
  distinctSections : (sections.map (·.sectionId)).Nodup := by decide
  orderedSections : sections.map (·.order) = List.range sections.length := by decide
  boundedClaims : claims.length ≤ maxClaims := by decide
  distinctClaims : (claims.map (·.claimId)).Nodup := by decide
  boundedUses : citationUses.length ≤ maxCitationUses := by decide
  distinctUses : (citationUses.map (·.citationUseId)).Nodup := by decide
  boundedWarnings : warnings.length ≤ 100 := by decide
  distinctWarnings : warnings.Nodup := by decide
  deriving DecidableEq

/-- A defect of a draft, and where it is. -/
structure NarrativeValidationIssue where
  code : String
  severity : ValidationSeverity
  safeMessage : String
  sectionId : Option String := none
  claimId : Option String := none
  citationId : Option String := none
  evidenceId : Option String := none
  deriving DecidableEq

/-- The outcome of a structural validation. -/
structure NarrativeValidationResult where
  issues : List NarrativeValidationIssue
  validatedClaimIds : List String
  rejectedClaimIds : List String
  validatedCitationUseIds : List String
  deriving DecidableEq

/-- A draft is valid without errors. -/
def NarrativeValidationResult.valid (result : NarrativeValidationResult) : Prop :=
  ¬ ∃ issue ∈ result.issues, issue.severity = .error

/-- An issue where something is wrong. -/
def issueIf (condition : Prop) [Decidable condition] (issue : NarrativeValidationIssue) :
    List NarrativeValidationIssue :=
  if condition then [issue] else []

/-- Where nothing is wrong there is no issue. -/
@[simp] theorem issueIf_eq_nil_iff {condition : Prop} [Decidable condition]
    {issue : NarrativeValidationIssue} : issueIf condition issue = [] ↔ ¬ condition := by
  simp [issueIf]

/-- An error of a draft. -/
def narrativeIssue (code safeMessage : String)
    (sectionId claimId citationId evidenceId : Option String) : NarrativeValidationIssue where
  code := code
  severity := .error
  safeMessage := safeMessage
  sectionId := sectionId
  claimId := claimId
  citationId := citationId
  evidenceId := evidenceId

section Validation

variable (request : NarrativeRequest) (source : NarrativeSourceBundle)
  (plan : List NarrativeSectionPlan) (draft : NarrativeDraft)

/-- The plan of a section; of several, the last. -/
def planOf (sectionId : String) : Option NarrativeSectionPlan :=
  plan.reverse.find? (·.sectionId = sectionId)

/-- The draft has a section. -/
def hasSection (sectionId : String) : Prop := sectionId ∈ draft.sections.map (·.sectionId)

instance (sectionId : String) : Decidable (hasSection draft sectionId) :=
  inferInstanceAs (Decidable (_ ∈ _))

/-- The issues of the draft as a whole. -/
def draftIssues : List NarrativeValidationIssue :=
  issueIf (draft.requestId ≠ request.requestId ∨ draft.executionId ≠ source.executionId)
      (narrativeIssue "execution_identity_mismatch" "Draft identity does not match request"
        none none none none) ++
    issueIf (draft.sections.length > request.policy.maximumSections)
      (narrativeIssue "too_many_sections" "Draft exceeds the section limit" none none none none) ++
    issueIf (draft.claims.length > request.policy.maximumClaims)
      (narrativeIssue "too_many_claims" "Draft exceeds the claim limit" none none none none) ++
    issueIf (draft.citationUses.length > request.policy.maximumCitations)
      (narrativeIssue "too_many_citations" "Draft exceeds the citation-use limit"
        none none none none) ++
    issueIf ((draft.sections.map (·.body.length)).sum > request.policy.maximumOutputCharacters)
      (narrativeIssue "output_too_large" "Draft exceeds the output size limit"
        none none none none)

/-- The issue of a planned section that is missing. -/
def plannedIssues (item : NarrativeSectionPlan) : List NarrativeValidationIssue :=
  issueIf (item.required = true ∧ ¬ hasSection draft item.sectionId)
    (narrativeIssue "missing_required_section" "A required section is missing"
      (some item.sectionId) none none none)

/-- The issues of a section. -/
def sectionIssues (item : NarrativeSection) : List NarrativeValidationIssue :=
  (match planOf plan item.sectionId with
    | none => [narrativeIssue "unknown_section" "Draft references an unknown section"
        (some item.sectionId) none none none]
    | some expected => issueIf (item.body.length > expected.maximumCharacters)
        (narrativeIssue "section_too_large" "Section exceeds its size limit"
          (some item.sectionId) none none none)) ++
    item.claimIds.flatMap (fun claimId => issueIf (claimId ∉ draft.claims.map (·.claimId))
      (narrativeIssue "unknown_claim" "Section references an unknown claim"
        (some item.sectionId) (some claimId) none none)) ++
    item.citationUseIds.flatMap fun useId =>
      issueIf (useId ∉ draft.citationUses.map (·.citationUseId))
        (narrativeIssue "unknown_citation_use" "Section references an unknown citation use"
          (some item.sectionId) none none none)

/-- The issues of a claim. -/
def claimIssues (claim : NarrativeClaim) : List NarrativeValidationIssue :=
  List.flatten
    [issueIf (¬ hasSection draft claim.sectionId)
        (narrativeIssue "unknown_section" "Claim references an unknown section"
          (some claim.sectionId) (some claim.claimId) none none),
      issueIf (∃ expected ∈ planOf plan claim.sectionId,
          claim.claimType ∉ expected.allowedClaimTypes)
        (narrativeIssue "claim_type_not_allowed" "Claim type is not allowed in section"
          (some claim.sectionId) (some claim.claimId) none none),
      issueIf (claim.claimType ∈ [.sourcedFact, .inference] ∧ claim.supportingEvidenceIds = [])
        (narrativeIssue "unsupported_claim" "Grounded claim has no supporting evidence"
          none (some claim.claimId) none none),
      issueIf (claim.claimType = .inference ∧ request.policy.allowInference = false)
        (narrativeIssue "inference_not_allowed" "Inference is not allowed by policy"
          none (some claim.claimId) none none),
      issueIf (claim.claimType = .recommendation ∧ request.policy.allowRecommendations = false)
        (narrativeIssue "recommendation_not_allowed" "Recommendation is not allowed by policy"
          none (some claim.claimId) none none),
      claim.supportingEvidenceIds.flatMap fun evidenceId =>
        issueIf (evidenceId ∉ source.allowedEvidenceIds)
          (narrativeIssue "unknown_evidence" "Claim references unknown evidence"
            none (some claim.claimId) none (some evidenceId)),
      claim.supportingCitationIds.flatMap fun citationId =>
        issueIf (citationId ∉ source.allowedCitationIds)
          (narrativeIssue "unknown_citation" "Claim references an unknown citation"
            none (some claim.claimId) (some citationId) none),
      claim.sourceStepIds.flatMap fun stepId => issueIf (stepId ∉ source.allowedStepIds)
        (narrativeIssue "unknown_source_step" "Claim references an unknown source step"
          none (some claim.claimId) none none)]

/-- The issue of a citation use: the first that applies. -/
def citationUseIssues (use : NarrativeCitationUse) : List NarrativeValidationIssue :=
  if ¬ hasSection draft use.sectionId then
    [narrativeIssue "unknown_section" "Citation use references an unknown section"
      (some use.sectionId) none (some use.citationId) none]
  else
    match draft.claims.reverse.find? (·.claimId = use.claimId) with
    | none =>
        [narrativeIssue "unknown_claim" "Citation use references an unknown claim"
          none (some use.claimId) (some use.citationId) none]
    | some claim =>
        if use.citationId ∉ source.allowedCitationIds then
          [narrativeIssue "unknown_citation" "Citation use references an unknown citation"
            none (some use.claimId) (some use.citationId) none]
        else issueIf (use.citationId ∉ claim.supportingCitationIds ∨
            use.citationId ∉ claim.supportingEvidenceIds)
          (narrativeIssue "citation_not_linked_to_evidence"
            "Citation is not linked to claim evidence"
            none (some use.claimId) (some use.citationId) none)

/-- The issues of disclosures the request leaves out. -/
def disclosureIssues : List NarrativeValidationIssue :=
  issueIf (source.narrativeInput.conflicts ≠ [] ∧ request.policy.includeConflicts = true ∧
      request.includeWarnings = false)
      (narrativeIssue "conflict_not_disclosed" "Source conflicts require disclosure"
        none none none none) ++
    issueIf (source.narrativeInput.confidence.score < request.policy.minimumConfidence ∧
        request.includeConfidence = false)
      (narrativeIssue "low_confidence_not_disclosed" "Low confidence requires disclosure"
        none none none none)

/-- All issues of a draft, in the order they are found. -/
def collectedIssues : List NarrativeValidationIssue :=
  List.flatten
    [draftIssues request source draft, plan.flatMap (plannedIssues draft),
      draft.sections.flatMap (sectionIssues plan draft),
      draft.claims.flatMap (claimIssues request source plan draft),
      draft.citationUses.flatMap (citationUseIssues source draft),
      disclosureIssues request source]

/-- What issues are deduplicated and ordered by. -/
def NarrativeValidationIssue.key (issue : NarrativeValidationIssue) : List String :=
  [issue.code, issue.severity.value, issue.sectionId.getD "", issue.claimId.getD "",
    issue.citationId.getD "", issue.evidenceId.getD ""]

/-- The last issue where there are more than may be reported. -/
def issueLimitReached : NarrativeValidationIssue :=
  narrativeIssue "validation_issue_limit_reached"
    "Additional validation issues were omitted at the bounded limit" none none none none

/-- The issues that are reported. -/
def boundedIssues (issues : List NarrativeValidationIssue) : List NarrativeValidationIssue :=
  capped maxValidationIssues issueLimitReached
    (sortedBy NarrativeValidationIssue.key (lastByKey NarrativeValidationIssue.key issues))

/-- Validate the structure of a draft against its sources. -/
def validateNarrativeDraft : Except NarrativeError NarrativeValidationResult := do
  source.validateRequest request
  let valid := draft.claims.filter (claimIssues request source plan draft · = [])
  let rejected := draft.claims.filter (claimIssues request source plan draft · ≠ [])
  let validUses := draft.citationUses.filter (citationUseIssues source draft · = [])
  pure
    { issues := boundedIssues (collectedIssues request source plan draft)
      validatedClaimIds := sortedSet (valid.map (·.claimId))
      rejectedClaimIds := sortedSet (rejected.map (·.claimId))
      validatedCitationUseIds := sortedSet (validUses.map (·.citationUseId)) }

end Validation

end PolicyOS.Intelligence
