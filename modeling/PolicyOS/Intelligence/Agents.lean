import PolicyOS.Domain.Identifiers
import PolicyOS.Execution.Validation
import PolicyOS.Foundation.SortedBy

/-!
# Agent definitions

The roles and capabilities of the office, the work products they make, and the catalog
of definitions an assignment is made from. Values that are enumerated are kept in the
order of their serialized forms.
-/

namespace PolicyOS.Intelligence

open Foundation

/-- The roles of the office. -/
inductive AgentRole
  | secretary | policyResearcher | legalReviewer | budgetAnalyst | statisticsAnalyst
  | communicationsOfficer | speechWriter | socialMediaManager | presentationDesigner
  deriving DecidableEq, Repr

/-- The serialized role. -/
def AgentRole.value : AgentRole → String
  | secretary => "secretary"
  | policyResearcher => "policy_researcher"
  | legalReviewer => "legal_reviewer"
  | budgetAnalyst => "budget_analyst"
  | statisticsAnalyst => "statistics_analyst"
  | communicationsOfficer => "communications_officer"
  | speechWriter => "speech_writer"
  | socialMediaManager => "social_media_manager"
  | presentationDesigner => "presentation_designer"

/-- What an agent may be able to do. -/
inductive AgentCapability
  | coordinationPlan | coordinationDelegate | coordinationReview | coordinationIntegrate
  | policyResearch | policyCompare | policyOptions | policyRisk
  | legalResearch | legalInterpretation | legalCompliance | legalRisk
  | budgetAnalysis | budgetCost | budgetImpact
  | statisticsAnalysis | statisticsValidation
  | communicationsPress | communicationsSummary
  | speechDraft | speechRevise
  | socialShort
  | presentationOutline | presentationSlides
  deriving DecidableEq, Repr

/-- The serialized capability. -/
def AgentCapability.value : AgentCapability → String
  | coordinationPlan => "coordination.plan"
  | coordinationDelegate => "coordination.delegate"
  | coordinationReview => "coordination.review"
  | coordinationIntegrate => "coordination.integrate"
  | policyResearch => "policy.research"
  | policyCompare => "policy.compare"
  | policyOptions => "policy.options"
  | policyRisk => "policy.risk_analysis"
  | legalResearch => "legal.research"
  | legalInterpretation => "legal.interpretation"
  | legalCompliance => "legal.compliance_review"
  | legalRisk => "legal.risk_review"
  | budgetAnalysis => "budget.analysis"
  | budgetCost => "budget.cost_estimate"
  | budgetImpact => "budget.fiscal_impact"
  | statisticsAnalysis => "statistics.analysis"
  | statisticsValidation => "statistics.validation"
  | communicationsPress => "communications.press_release"
  | communicationsSummary => "communications.public_summary"
  | speechDraft => "speech.draft"
  | speechRevise => "speech.revise"
  | socialShort => "social.short_form"
  | presentationOutline => "presentation.outline"
  | presentationSlides => "presentation.slide_spec"

/-- What an agent may make. -/
inductive WorkProductType
  | policyAnalysis | legalReview | budgetAnalysis | statisticalAnalysis | communicationsDraft
  | speechDraft | socialContent | presentationSpec | integratedReview
  deriving DecidableEq, Repr

/-- The serialized work product type. -/
def WorkProductType.value : WorkProductType → String
  | policyAnalysis => "policy_analysis"
  | legalReview => "legal_review"
  | budgetAnalysis => "budget_analysis"
  | statisticalAnalysis => "statistical_analysis"
  | communicationsDraft => "communications_draft"
  | speechDraft => "speech_draft"
  | socialContent => "social_content"
  | presentationSpec => "presentation_spec"
  | integratedReview => "integrated_review"

/-- Values that are distinct and in the order of their serialized forms. -/
def canonicalBy {α : Type} [DecidableEq α] (value : α → String) (items : List α) : Prop :=
  sortedBy value items.dedup = items

instance {α : Type} [DecidableEq α] (value : α → String) (items : List α) :
    Decidable (canonicalBy value items) :=
  inferInstanceAs (Decidable (_ = _))

/-- The exception classes of agents and delegations. -/
inductive AgentErrorKind
  | unknownAgent | delegationIdentity | assignment | classification | validation
  deriving DecidableEq, Repr

/-- A typed failure of agents and delegations with its message. -/
structure AgentError where
  kind : AgentErrorKind
  message : String
  deriving DecidableEq, Repr

end PolicyOS.Intelligence

/-!
# Delegation to agents

A delegation asks for a role with capabilities over references of one tenant. It is
validated against the catalog, and one eligible agent is assigned. What an agent makes
of its assignment is a work product.
-/

namespace PolicyOS.Intelligence

open Foundation Execution

/-- What a reference refers to. -/
inductive WorkProductReferenceType
  | executionResult | narrativeDraft | groundingValidation | reflectionResult | priorWorkProduct
  deriving DecidableEq, Repr

/-- A reference to something made earlier. -/
structure WorkProductReference where
  referenceId : String
  referenceType : WorkProductReferenceType
  objectId : UUID
  executionId : UUID
  organizationId : UUID
  classification : DataClassification
  shaped : referenceIdPattern referenceId = true := by decide
  deriving DecidableEq

/-- How urgent a delegation is. -/
inductive DelegationPriority
  | high | normal | low
  deriving DecidableEq, Repr

/-- The data of a delegation. -/
structure DelegationRequestFields where
  delegationId : UUID
  parentDelegationId : Option UUID := none
  rootDelegationId : UUID
  requestingAgentId : String
  requestedRole : AgentRole
  requiredCapabilities : List AgentCapability
  objective : String
  inputReferences : List WorkProductReference
  expectedWorkProductTypes : List WorkProductType
  priority : DelegationPriority := .normal
  required : Bool := true
  organizationId : UUID
  actorId : UUID
  correlationId : String
  causationId : Option String := none
  classification : DataClassification
  delegationDepth : Nat
  issuedAt : DateTime
  deadline : DateTime
  deriving DecidableEq

/-- A reference is of the tenant of its delegation, and not above its classification. -/
def DelegationRequestFields.validateReference (request : DelegationRequestFields)
    (item : WorkProductReference) : Except AgentError Unit := do
  rejectIf (item.organizationId ≠ request.organizationId)
    ⟨.delegationIdentity, "Cross-tenant reference"⟩
  (requireNotLower request.classification item.classification "classification").mapError
    fun error => ⟨.classification, error.message⟩

/-- The checks a delegation makes on itself. -/
def DelegationRequestFields.lineage (request : DelegationRequestFields) :
    Except AgentError Unit := do
  rejectIf (request.requiredCapabilities = [] ∨
      ¬ canonicalBy AgentCapability.value request.requiredCapabilities)
    ⟨.validation, "Delegation values must be non-empty, canonical, and unique"⟩
  rejectIf (request.expectedWorkProductTypes = [] ∨
      ¬ canonicalBy WorkProductType.value request.expectedWorkProductTypes)
    ⟨.validation, "Delegation values must be non-empty, canonical, and unique"⟩
  rejectIf (request.deadline ≤ request.issuedAt)
    ⟨.validation, "Delegation deadline must follow issue time"⟩
  rejectIf (request.delegationDepth = 0 ∧ (request.parentDelegationId ≠ none ∨
      request.rootDelegationId ≠ request.delegationId))
    ⟨.validation, "Root delegation lineage is invalid"⟩
  rejectIf (request.delegationDepth ≠ 0 ∧ (request.parentDelegationId = none ∨
      request.parentDelegationId = some request.delegationId))
    ⟨.validation, "Child delegation lineage is invalid"⟩
  let ids := request.inputReferences.map (·.referenceId)
  rejectIf (¬ ids.Nodup ∨ ids ≠ sortedBy id ids)
    ⟨.validation, "Input references are not canonical"⟩
  checkEach request.validateReference request.inputReferences

/-- A delegation. -/
structure DelegationRequest extends DelegationRequestFields where
  consistent : toDelegationRequestFields.lineage = .ok () := by decide +kernel
  deriving DecidableEq

/-- Build a delegation, raising what it checks on itself. -/
def DelegationRequest.validated (fields : DelegationRequestFields) :
    Except AgentError DelegationRequest :=
  buildChecked fields.lineage fun consistent => { toDelegationRequestFields := fields, consistent }

/-- A reason a delegation is not valid. -/
structure DelegationValidationIssue where
  code : String
  safeMessage : String
  deriving DecidableEq

/-- The outcome of a validation. -/
structure DelegationValidationResult where
  issues : List DelegationValidationIssue
  eligibleAgentIds : List String
  deriving DecidableEq

/-- How far an assignment got. -/
inductive AssignmentStatus
  | prepared | rejected | cancelled | expired
  deriving DecidableEq, Repr

/-- The assignment of an agent. Its deadline is taken as it is given. -/
structure AgentAssignment where
  assignmentId : UUID
  delegationId : UUID
  agentId : String
  role : AgentRole
  approvedCapabilities : List AgentCapability
  expectedWorkProductTypes : List WorkProductType
  organizationId : UUID
  actorId : UUID
  correlationId : String
  classification : DataClassification
  deadline : Moment
  status : AssignmentStatus := .prepared
  deriving DecidableEq

/-- What became of a work product. -/
inductive WorkProductStatus
  | prepared | needsHumanReview | rejected
  deriving DecidableEq, Repr

/-- What an agent made of its assignment. -/
structure AgentWorkProduct where
  workProductId : UUID
  assignmentRequestId : String
  assignmentId : UUID
  delegationId : UUID
  taskId : String
  executionId : UUID
  agentId : String
  role : AgentRole
  workProductType : WorkProductType
  status : WorkProductStatus
  content : String
  references : List WorkProductReference
  evidenceIds : List String := []
  citationIds : List String := []
  organizationId : UUID
  classification : DataClassification
  requiresHumanReview : Bool := false
  completedAt : DateTime
  canonicalReferences : references.length ≤ 100 ∧
    sortedSet (references.map (·.referenceId)) = references.map (·.referenceId) := by
      decide +kernel
  canonicalIds : sortedSet evidenceIds = evidenceIds ∧ sortedSet citationIds = citationIds := by
    decide +kernel
  deriving DecidableEq

end PolicyOS.Intelligence
