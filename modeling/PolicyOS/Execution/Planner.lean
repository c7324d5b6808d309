import PolicyOS.Execution.Domain
import PolicyOS.Foundation.SortedBy

/-!
# Rule-based planning

A planner reads the objective of a request, chooses the capabilities that answer it from a
catalog, and makes one step of each, in the order of their phases: searches first, then tools,
then validation, and synthesis last. How text is folded for comparison is not defined here.
-/

namespace PolicyOS.Execution

open Foundation

/-! ## Errors -/

/-- The exception classes of the planner, and those of the contracts it builds. -/
inductive PlannerErrorKind
  | identityMismatch | classification | capabilityNotFound | capabilityUnsupported
  | invalidPlannerResult
  | execution (kind : ExecutionDomainErrorKind)
  deriving DecidableEq, Repr

/-- A planner error with its message. -/
structure PlannerError where
  kind : PlannerErrorKind
  message : String
  deriving DecidableEq, Repr

/-- An error of an execution contract, as the planner raises it. -/
def PlannerError.ofExecution (raised : ExecutionDomainError) : PlannerError :=
  ⟨.execution raised.kind, raised.message⟩

/-! ## Capabilities -/

/-- What a capability does. -/
inductive CapabilityKind
  | knowledge | connector | internalTool | validation | synthesis | reasoning
  deriving DecidableEq, Repr

/-- What an objective asks for. -/
inductive IntentCategory
  | research | legalAnalysis | policyAnalysis | comparison | documentGeneration | validation
  | summarization | general
  deriving DecidableEq, Repr

/-- A category in words. -/
def IntentCategory.words : IntentCategory → String
  | .research => "research"
  | .legalAnalysis => "legal analysis"
  | .policyAnalysis => "policy analysis"
  | .comparison => "comparison"
  | .documentGeneration => "document generation"
  | .validation => "validation"
  | .summarization => "summarization"
  | .general => "general"

/-- A capability that logical work can be given to. -/
structure ExecutionCapability where
  capabilityId : String
  kind : CapabilityKind
  supportedClassifications : List DataClassification
  maxTimeoutSeconds : {seconds : Nat // 1 ≤ seconds ∧ seconds ≤ 600} := defaultTimeout
  retryable : Bool := false
  supportedScope : supportedClassifications ≠ [] ∧
    (supportedClassifications.map (·.rank)).Pairwise (· < ·) := by decide
  deriving DecidableEq

/-- Whether a capability supports a classification. -/
def ExecutionCapability.supports (capability : ExecutionCapability)
    (classification : DataClassification) : Prop :=
  classification ∈ capability.supportedClassifications

instance (capability : ExecutionCapability) (classification : DataClassification) :
    Decidable (capability.supports classification) :=
  inferInstanceAs (Decidable (_ ∈ _))

/-- Capabilities by identifier, each listed once. -/
structure CapabilityCatalog where
  capabilities : List ExecutionCapability
  uniqueSorted : (capabilities.map (·.capabilityId)).Pairwise (· < ·) := by decide

/-- The capability of an identifier. -/
def CapabilityCatalog.get (catalog : CapabilityCatalog) (capabilityId : String) :
    Except PlannerError ExecutionCapability :=
  match catalog.capabilities.find? (·.capabilityId = capabilityId) with
  | some capability => .ok capability
  | none => .error ⟨.capabilityNotFound, "Required capability is unavailable: " ++ capabilityId⟩

/-- A required capability must be there and support the classification. -/
def selectRequired (classification : DataClassification) (catalog : CapabilityCatalog)
    (capabilityId : String) : Except PlannerError ExecutionCapability := do
  let capability ← catalog.get capabilityId
  rejectIf (¬ capability.supports classification)
    ⟨.capabilityUnsupported,
      "Capability does not support the trusted classification: " ++ capabilityId⟩
  pure capability

/-- What has been selected, and the warnings about what has not. -/
structure Selection where
  selected : List ExecutionCapability
  warnings : List String := []

/-- Add an optional capability, or a warning if it cannot be added. -/
def selectOptional (classification : DataClassification) (catalog : CapabilityCatalog)
    (selection : Selection) (capabilityId : String) : Selection :=
  match catalog.get capabilityId with
  | .error _ =>
      { selection with
        warnings := selection.warnings ++
          ["Optional capability is unavailable: " ++ capabilityId] }
  | .ok capability =>
      if ¬ capability.supports classification then
        { selection with
          warnings := selection.warnings ++
            ["Optional capability does not support classification: " ++ capabilityId] }
      else if capability ∈ selection.selected then selection
      else { selection with selected := selection.selected ++ [capability] }

/-- Select the required capabilities, and the optional ones that are there. -/
def select (required optional : List String) (classification : DataClassification)
    (catalog : CapabilityCatalog) : Except PlannerError Selection := do
  let selected ← collectEach (selectRequired classification catalog) required
  pure (optional.foldl (selectOptional classification catalog) ⟨selected, []⟩)

/-! ## Requests and results -/

/-- What is asked of an execution. -/
structure ExecutionRequest where
  executionId : UUID
  organizationId : UUID
  actorId : UUID
  objective : String
  classification : DataClassification
  correlationId : String
  deriving DecidableEq

/-- What a planner understood of a request. -/
structure ExecutionIntent where
  intentId : UUID
  category : IntentCategory
  objectiveSummary : String
  requiredCapabilities : List String
  classification : DataClassification
  deriving DecidableEq

/-- The call of a planner. -/
structure PlannerInvocation where
  planId : UUID
  intentId : UUID
  createdAt : DateTime
  plannerName : String
  plannerVersion : String
  deriving DecidableEq

/-- What a planner answers with. -/
structure PlannerResultFields where
  executionId : UUID
  organizationId : UUID
  actorId : UUID
  correlationId : String
  intent : ExecutionIntent
  plan : ExecutionPlan
  selectedCapabilities : List String
  warnings : List String := []
  plannerName : String
  plannerVersion : String

/-- The validators of a result. -/
def PlannerResultFields.validate (fields : PlannerResultFields) : Except PlannerError Unit := do
  rejectIf (¬ fields.selectedCapabilities.Nodup)
    ⟨.invalidPlannerResult, "selected capabilities must be unique"⟩
  rejectIf (fields.plan.steps.map (·.target) ≠ fields.selectedCapabilities)
    ⟨.invalidPlannerResult, "Selected capabilities do not match plan targets"⟩
  rejectIf (fields.executionId ≠ fields.plan.executionId)
    ⟨.invalidPlannerResult, "Planner result execution identity does not match plan"⟩
  rejectIf (fields.intent.classification ≠ fields.plan.classification)
    ⟨.invalidPlannerResult, "Planner result classification does not match plan"⟩

/-- A validated result. -/
structure PlannerResult extends PlannerResultFields where
  consistentResult : toPlannerResultFields.validate = .ok ()

/-! ## Rules -/

/-- The identifier of the search in law. -/
def legalSearch : String := "knowledge.legal_search"

/-- The identifier of the search in policies. -/
def policySearch : String := "knowledge.policy_search"

/-- The identifier of the analysis of statistics. -/
def statisticsAnalysis : String := "tool.statistics_analysis"

/-- The identifier of the analysis of policies. -/
def policyAnalysis : String := "tool.policy_analysis"

/-- The identifier of the validation of evidence. -/
def evidenceValidation : String := "validation.evidence"

/-- The identifier of the final synthesis. -/
def finalSynthesis : String := "synthesis.final_response"

/-- Words of law. -/
def legalKeywords : List String :=
  ["법", "법령", "조례", "판례", "규정", "statute", "regulation", "ordinance", "case law"]

/-- Words of policy. -/
def policyKeywords : List String :=
  ["정책", "예산", "통계", "영향", "대안", "비교", "분석", "policy", "budget", "statistics",
    "impact", "compare", "analysis"]

/-- Words that ask for a summary. -/
def summaryKeywords : List String := ["요약", "summarize", "summary"]

/-- Words that ask for validation. -/
def validationKeywords : List String := ["검증", "validate", "validation", "evidence"]

/-- Whether a text has one of some keywords in it. -/
def mentions (text : String) (keywords : List String) : Prop :=
  ∃ keyword ∈ keywords, keyword.toList <:+: text.toList

instance (text : String) (keywords : List String) : Decidable (mentions text keywords) :=
  inferInstanceAs (Decidable (∃ _ ∈ _, _))

/-- What the rules find in an objective. -/
structure PlanningRules where
  category : IntentCategory
  required : List String
  optional : List String
  deriving DecidableEq

/-- The rules, in the order they are tried. -/
def planningRules (casefold : String → String) (objective : String) : PlanningRules :=
  let normalized := casefold objective
  let (category, primary, optional) :=
    if mentions normalized legalKeywords then
      (IntentCategory.legalAnalysis, legalSearch, [])
    else if mentions normalized policyKeywords then
      (.policyAnalysis, policySearch, [statisticsAnalysis, policyAnalysis])
    else (.research, policySearch, [])
  let category := if mentions normalized summaryKeywords then .summarization else category
  let category := if mentions normalized validationKeywords then .validation else category
  ⟨category, [primary, evidenceValidation, finalSynthesis], optional⟩

/-! ## Steps -/

/-- The phase of a capability. -/
def planningOrder (capability : ExecutionCapability) : Nat :=
  match capability.kind with
  | .knowledge | .connector => 0
  | .internalTool | .reasoning => 1
  | .validation => 2
  | .synthesis => 3

/-- The step of a capability. -/
def stepKind : CapabilityKind → StepKind
  | .knowledge => .knowledgeQuery
  | .connector => .connectorCall
  | .internalTool | .reasoning => .internalTool
  | .validation => .validation
  | .synthesis => .synthesis

/-- The identifier of a step. -/
def plannedStepId (sequence : Nat) (capabilityId : String) : String :=
  "step-" ++ String.leftpad 3 '0' (toString sequence) ++ "-" ++
    capabilityId.map fun character => if character = '.' then '-' else character

/-- How often a capability is tried. -/
def retryPolicyOf (capability : ExecutionCapability) : RetryPolicy :=
  match capability.retryable with
  | true => { maxAttempts := 2, delayOrder := RetryPolicy.once.delayOrder }
  | false => .once

/-- The steps made so far, and which of them are work. -/
structure PlannedSteps where
  steps : List ExecutionStep := []
  workIds : List String := []

/-- What the next step depends on: validation on all work before it, and synthesis on everything
before it. -/
def nextDependencies (planned : PlannedSteps) : CapabilityKind → List String
  | .validation => planned.workIds
  | .synthesis => planned.steps.map (·.stepId)
  | _ => []

/-- The next step. One is made of each capability, so its number is how many there are. -/
def nextStep (request : ExecutionRequest) (planned : PlannedSteps)
    (capability : ExecutionCapability) : ExecutionStep where
  stepId := plannedStepId planned.steps.length capability.capabilityId
  executionId := request.executionId
  sequence := planned.steps.length
  kind := stepKind capability.kind
  instruction := "Execute logical capability " ++ capability.capabilityId
  dependencies := nextDependencies planned capability.kind
  target := capability.capabilityId
  timeoutSeconds := capability.maxTimeoutSeconds
  retryPolicy := retryPolicyOf capability
  classification := request.classification

/-- Make the step of a capability. -/
def addStep (request : ExecutionRequest) (planned : PlannedSteps)
    (capability : ExecutionCapability) : PlannedSteps where
  steps := planned.steps ++ [nextStep request planned capability]
  workIds := match capability.kind with
    | .validation | .synthesis => planned.workIds
    | _ => planned.workIds ++ [(nextStep request planned capability).stepId]

/-- The steps of the selected capabilities. -/
def plannedSteps (request : ExecutionRequest) (capabilities : List ExecutionCapability) :
    List ExecutionStep :=
  (capabilities.foldl (addStep request) {}).steps

/-! ## Plans -/

/-- The validator of a plan. -/
def validPlan (executionId : UUID) (classification : DataClassification)
    (steps : List ExecutionStep) : Except ExecutionDomainError Unit := do
  rejectIf (¬ ∀ step ∈ steps, step.executionId = executionId)
    ⟨.invalidPlan, "Plan step execution identity does not match plan"⟩
  checkEach (fun step => requireNotLower step.classification classification "step classification")
    steps
  validateDependencyGraph (steps.map (·.toStepLike))

theorem validPlan_eq_ok_iff {executionId : UUID} {classification : DataClassification}
    {steps : List ExecutionStep} :
    validPlan executionId classification steps = .ok () ↔
      (∀ step ∈ steps, step.executionId = executionId) ∧
        (∀ step ∈ steps, classification.rank ≤ step.classification.rank) ∧
          validateDependencyGraph (steps.map (·.toStepLike)) = .ok () := by
  simp only [validPlan, requireNotLower, bind_eq_ok_iff, exists_unit_iff, rejectIf_eq_ok_iff,
    checkEach_eq_ok_iff, not_not, not_lt]

/-- A plan is for the execution of a context, and not classified lower. -/
def ExecutionPlan.validateContext (plan : ExecutionPlan) (context : ExecutionContext) :
    Except ExecutionDomainError Unit := do
  rejectIf (plan.executionId ≠ context.executionId)
    ⟨.invalidPlan, "Plan execution identity does not match context"⟩
  requireNotLower plan.classification context.classification "plan classification"

/-- A request must be that of its context, and not classified lower. -/
def validateIdentity (request : ExecutionRequest) (context : ExecutionContext) :
    Except PlannerError Unit := do
  rejectIf (context.executionId ≠ request.executionId ∨
      context.organizationId ≠ request.organizationId ∨ context.actorId ≠ request.actorId ∨
      context.correlationId ≠ request.correlationId)
    ⟨.identityMismatch, "Planning identity does not match context"⟩
  rejectIf (request.classification.rank < context.classification.rank)
    ⟨.classification, "Planning classification scope is invalid"⟩

/-- The plan of some steps. -/
def plannedPlan (request : ExecutionRequest) (invocation : PlannerInvocation)
    (steps : List ExecutionStep) : Except ExecutionDomainError ExecutionPlan :=
  buildChecked (validPlan request.executionId request.classification steps) fun valid =>
    { planId := invocation.planId
      executionId := request.executionId
      version := 1
      objective := request.objective
      steps := steps
      createdAt := invocation.createdAt
      plannerName := invocation.plannerName
      plannerVersion := some invocation.plannerVersion
      classification := request.classification
      stepIdentity := (validPlan_eq_ok_iff.mp valid).1
      stepClassification := (validPlan_eq_ok_iff.mp valid).2.1
      graph := (validPlan_eq_ok_iff.mp valid).2.2 }

/-- What the planner understood of a request. -/
def plannedIntent (request : ExecutionRequest) (invocation : PlannerInvocation)
    (rules : PlanningRules) : ExecutionIntent where
  intentId := invocation.intentId
  category := rules.category
  objectiveSummary := "Rule-based " ++ rules.category.words ++ " request"
  requiredCapabilities := rules.required
  classification := request.classification

/-- Plan a request. -/
def planRequest (casefold : String → String) (request : ExecutionRequest)
    (context : ExecutionContext) (catalog : CapabilityCatalog) (invocation : PlannerInvocation) :
    Except PlannerError PlannerResult := do
  validateIdentity request context
  let rules := planningRules casefold request.objective
  let selection ← select rules.required rules.optional request.classification catalog
  let selected := sortedBy planningOrder selection.selected
  let plan ← (plannedPlan request invocation (plannedSteps request selected)).mapError .ofExecution
  (plan.validateContext context).mapError .ofExecution
  let fields : PlannerResultFields := {
    executionId := request.executionId
    organizationId := request.organizationId
    actorId := request.actorId
    correlationId := request.correlationId
    intent := plannedIntent request invocation rules
    plan := plan
    selectedCapabilities := selected.map (·.capabilityId)
    warnings := selection.warnings
    plannerName := invocation.plannerName
    plannerVersion := invocation.plannerVersion }
  buildChecked fields.validate fun valid => ⟨fields, valid⟩

end PolicyOS.Execution
