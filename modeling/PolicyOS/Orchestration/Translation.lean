import PolicyOS.Execution.Domain
import PolicyOS.Execution.JsonValidation
import PolicyOS.Foundation.Reports
import PolicyOS.Intelligence.Coordination

/-!
# Translation of a coordination plan

Every task of a specialist becomes one step, one request and one binding, of the one
assignment that fits it; the boundaries of the Secretary and human reviews become gates.
What does not fit is collected as issues, and a plan is made only without any.
-/

namespace PolicyOS.Orchestration

open Foundation Execution Intelligence

/-! ## Contracts -/

/-- How a translation ended. -/
inductive CoordinationExecutionTranslationStatus
  | ready | partial_ | rejected | cancelled | expired | failed
  deriving DecidableEq, Repr

/-- What a gate stands for. -/
inductive ExecutionGateType
  | secretaryIntegration | secretaryQualityReview | humanReview
  deriving DecidableEq, Repr

/-- The serialized gate type. -/
def ExecutionGateType.value : ExecutionGateType → String
  | secretaryIntegration => "secretary_integration_boundary"
  | secretaryQualityReview => "secretary_quality_review_boundary"
  | humanReview => "human_review"

/-- The tasks specialists do. -/
def specialistTypes : List CoordinationTaskType :=
  [.research, .legalReview, .budgetAnalysis, .statisticsAnalysis, .communicationsDraft,
    .speechDraft, .socialMediaDraft, .presentationSpec]

/-- The gate a task type stands for, where it is not done by a specialist. -/
def gateTypeOf : CoordinationTaskType → Option ExecutionGateType
  | .integration => some .secretaryIntegration
  | .qualityReview => some .secretaryQualityReview
  | .humanReviewGate => some .humanReview
  | _ => none

/-- An input of an assignment. -/
@[ext] structure AssignmentExecutionInputReference where
  referenceId : String
  referenceType : WorkProductReferenceType
  objectId : UUID
  sourceExecutionId : UUID
  organizationId : UUID
  classification : DataClassification
  shaped : referenceIdPattern referenceId = true := by decide

instance : DecidableEq AssignmentExecutionInputReference := fun _ _ =>
  decidable_of_iff' _ AssignmentExecutionInputReference.ext_iff

/-- An output of an assignment. -/
structure AssignmentExecutionOutputSpec where
  workProductType : WorkProductType
  required : Bool := true
  deriving DecidableEq

/-- The request of a translation. -/
structure CoordinationExecutionTranslationRequest where
  translationId : UUID
  coordinationPlan : CoordinationPlan
  organizationId : UUID
  actorId : UUID
  correlationId : String
  causationId : Option String := none
  classification : DataClassification
  issuedAt : DateTime
  deadline : DateTime
  deadlineFollows : issuedAt < deadline := by decide

/-- The context a translation runs in. -/
structure CoordinationExecutionTranslationContext where
  translationId : UUID
  coordinationId : UUID
  organizationId : UUID
  actorId : UUID
  correlationId : String
  classification : DataClassification
  translatedAt : DateTime
  deadline : DateTime
  cancellationRequested : Bool := false

/-- The limits of a translation. The flags no check reads are left out. -/
structure CoordinationExecutionTranslationPolicy where
  maximumExecutionSteps : Nat := 50
  maximumStepDependencies : Nat := 50
  maximumAssignmentBindings : Nat := 50
  maximumInputReferences : Nat := 100
  maximumExpectedOutputs : Nat := 20
  maximumCapabilities : Nat := 20
  maximumApprovalGates : Nat := 20
  maximumValidationIssues : Nat := 100
  allowUnassignedOptionalTasks : Bool := true
  boundedSteps : 1 ≤ maximumExecutionSteps ∧ maximumExecutionSteps ≤ 500 := by decide
  boundedDependencies : maximumStepDependencies ≤ 100 := by decide
  boundedIssues : 1 ≤ maximumValidationIssues ∧ maximumValidationIssues ≤ 200 := by decide

/-- What an assignment asks an agent for. -/
structure AssignmentExecutionRequest where
  assignmentExecutionRequestId : String
  translationId : UUID
  coordinationId : UUID
  taskId : String
  delegationId : UUID
  assignmentId : UUID
  agentDefinitionId : String
  agentRole : AgentRole
  approvedCapabilities : List AgentCapability
  inputReferences : List AssignmentExecutionInputReference
  expectedOutputs : List AssignmentExecutionOutputSpec
  organizationId : UUID
  actorId : UUID
  correlationId : String
  causationId : Option String := none
  classification : DataClassification
  requestedAt : DateTime
  deadline : DateTime
  required : Bool
  humanReviewRequired : Bool
  lineage : List String
  deriving DecidableEq

/-- What binds an assignment to a step. -/
structure AssignmentExecutionBinding where
  bindingId : String
  taskId : String
  assignmentId : UUID
  executionRequestId : String
  executionStepId : String
  agentDefinitionId : String
  role : AgentRole
  capabilities : List AgentCapability
  required : Bool
  organizationId : UUID
  classification : DataClassification
  deriving DecidableEq

/-- A gate of a plan. It is not executed. -/
structure ExecutionApprovalGate where
  gateId : String
  coordinationTaskId : String
  gateType : ExecutionGateType
  dependencyStepIds : List String
  dependencyGateIds : List String := []
  blocking : Bool := true
  organizationId : UUID
  classification : DataClassification
  requiredReviewGroup : String := "governed_reviewers"
  safeReasonCode : String
  deadline : DateTime
  deriving DecidableEq

/-- A reason a plan is not translated. -/
structure ExecutionTranslationIssue where
  code : String
  safeMessage : String
  taskId : Option String := none
  assignmentId : Option UUID := none
  deriving DecidableEq

/-- The result of a translation. -/
structure CoordinationExecutionTranslationResult where
  translationId : UUID
  coordinationId : UUID
  status : CoordinationExecutionTranslationStatus
  issues : List ExecutionTranslationIssue
  validatedTaskIds : List String
  executionPlan : Option ExecutionPlan := none
  assignmentExecutionRequests : List AssignmentExecutionRequest := []
  assignmentBindings : List AssignmentExecutionBinding := []
  approvalGates : List ExecutionApprovalGate := []
  translatedTaskIds : List String := []
  untranslatedOptionalTaskIds : List String := []
  blockingGateIds : List String := []
  organizationId : UUID
  classification : DataClassification
  startedAt : DateTime
  completedAt : DateTime
  safeMessage : String

/-- What a translation raises: a comparison that is not defined, a value its model
rejects, or a plan the execution rejects. -/
inductive TranslationErrorKind
  | incomparable | missingRole | validation | executionPlan
  deriving DecidableEq, Repr

/-- A raised error with its message. -/
structure TranslationError where
  kind : TranslationErrorKind
  message : String
  deriving DecidableEq, Repr

/-- What the execution raises in a translation. -/
def fromExecution {Value : Type} (result : Except ExecutionDomainError Value) :
    Except TranslationError Value :=
  result.mapError fun error => ⟨.executionPlan, error.message⟩

/-- What the execution accepts the translation accepts. -/
@[simp] theorem fromExecution_eq_ok_iff {Value : Type}
    {result : Except ExecutionDomainError Value} {value : Value} :
    fromExecution result = .ok value ↔ result = .ok value :=
  mapError_eq_ok_iff

/-- The error of a comparison with a wall clock reading. -/
def incomparable : TranslationError :=
  ⟨.incomparable, "can't compare offset-naive and offset-aware datetimes"⟩

/-- Whether a moment is after an instant. -/
def after (moment : Moment) (limit : DateTime) : Except TranslationError Bool :=
  match moment with
  | .aware instant => .ok (instant > limit)
  | .naive _ => .error incomparable

/-- The earlier of a moment and an instant. -/
def earlier (moment : Moment) (limit : DateTime) : Except TranslationError DateTime :=
  match moment with
  | .aware instant => .ok (min instant limit)
  | .naive _ => .error incomparable

/-! ## Identifiers -/

/-- The identifier of a task after its start. -/
def taskName (taskId : String) : String := String.ofList (taskId.toList.drop 5)

/-- The identifiers that are made of that of a task. -/
def stepIdOf (taskId : String) : String := "step." ++ taskName taskId
def gateIdOf (taskId : String) : String := "gate." ++ taskName taskId
def requestIdOf (translationId : UUID) (taskId : String) : String :=
  "request." ++ uuidText translationId ++ "." ++ taskName taskId
def bindingIdOf (translationId : UUID) (taskId : String) : String :=
  "binding." ++ uuidText translationId ++ "." ++ taskName taskId

/-- An identifier that does not keep to its pattern. -/
def patternError (pattern : String) : TranslationError :=
  ⟨.validation, "String should match pattern " ++ pattern⟩

/-! ## Issues -/

/-- One issue, where it applies. -/
def issueWhen (applies : Prop) [Decidable applies] (code safeMessage : String)
    (taskId : Option String := none) (assignmentId : Option UUID := none) :
    List ExecutionTranslationIssue :=
  if applies then [{ code, safeMessage, taskId, assignmentId }] else []

/-- What does not apply is no issue. -/
@[simp] theorem issueWhen_eq_nil_iff {applies : Prop} [Decidable applies]
    {code safeMessage : String} {taskId : Option String} {assignmentId : Option UUID} :
    issueWhen applies code safeMessage taskId assignmentId = [] ↔ ¬ applies := by
  simp [issueWhen]

/-- What issues are ordered by. -/
def ExecutionTranslationIssue.order (issue : ExecutionTranslationIssue) : List String :=
  [issue.code, issue.taskId.getD "", (issue.assignmentId.map uuidText).getD ""]

/-- The last issue where there are more than may be reported. -/
def translationLimitReached : ExecutionTranslationIssue where
  code := "validation_issue_limit_reached"
  safeMessage := "Translation validation issue limit reached"

/-- The issues that are reported. -/
def boundedTranslationIssues (issues : List ExecutionTranslationIssue) (limit : Nat) :
    List ExecutionTranslationIssue :=
  capped limit translationLimitReached (sortedBy ExecutionTranslationIssue.order issues)

/-! ## Dependencies -/

/-- A task of a plan; of several of one identifier, the last. -/
def taskById (plan : CoordinationPlan) (taskId : String) : Option CoordinationTask :=
  plan.tasks.reverse.find? (·.taskId = taskId)

/-- Follow dependencies through tasks that are not executed, to those that are. A task is
followed once, so there is a round for each dependency of the start and of every task. -/
def resolveDependencies (plan : CoordinationPlan) (executable : List String) :
    Nat → List String → List String → List String → List String
  | 0, _, _, found => found
  | _ + 1, [], _, found => found
  | rounds + 1, dependency :: pending, seen, found =>
      if dependency ∈ seen then resolveDependencies plan executable rounds pending seen found
      else if dependency ∈ executable then
        resolveDependencies plan executable rounds pending (dependency :: seen)
          (found ++ [stepIdOf dependency])
      else
        match taskById plan dependency with
        | none => resolveDependencies plan executable rounds pending (dependency :: seen) found
        | some task =>
            resolveDependencies plan executable rounds (pending ++ task.dependencyTaskIds)
              (dependency :: seen) found

/-- The steps a task depends on. -/
def stepDependencies (plan : CoordinationPlan) (executable : List String)
    (task : CoordinationTask) : List String :=
  sortedSet (resolveDependencies plan executable
    (task.dependencyTaskIds.length + (plan.tasks.map (·.dependencyTaskIds.length)).sum)
    task.dependencyTaskIds [] [])

/-! ## Assignments -/

/-- A delegation of a plan; of several of one identifier, the last. -/
def delegationById (plan : CoordinationPlan) (delegationId : UUID) : Option DelegationRequest :=
  plan.delegationRequests.reverse.find? (·.delegationId = delegationId)

/-- The agents that were eligible for a delegation. -/
def eligibleAgentIds (plan : CoordinationPlan) (delegationId : UUID) : List String :=
  (((plan.delegationRequests.zip plan.delegationValidations).reverse.find?
    (·.1.delegationId = delegationId)).map (·.2.eligibleAgentIds)).getD []

/-- A delegation is for a task. -/
def matchesTask (task : CoordinationTask) (delegation : DelegationRequest) : Prop :=
  some delegation.requestedRole = task.requiredRole ∧
    delegation.requiredCapabilities = task.requiredCapabilities ∧
    delegation.expectedWorkProductTypes = task.expectedWorkProductTypes ∧
    delegation.required = task.required ∧
    delegation.organizationId = task.organizationId ∧
    delegation.classification = task.classification

instance (task : CoordinationTask) (delegation : DelegationRequest) :
    Decidable (matchesTask task delegation) :=
  inferInstanceAs (Decidable (_ ∧ _))

/-- The assignments of a plan whose delegation is for a task. -/
def matching (plan : CoordinationPlan) (task : CoordinationTask) :
    List (AgentAssignment × DelegationRequest) :=
  plan.assignments.filterMap fun assignment =>
    ((delegationById plan assignment.delegationId).filter fun delegation =>
      matchesTask task delegation).map (assignment, ·)

/-- What becomes of a task. -/
inductive TaskChoice
  | boundary
  | untranslated
  | missing
  | reused (assignment : AgentAssignment)
  | assigned (assignment : AgentAssignment) (delegation : DelegationRequest)

variable (request : CoordinationExecutionTranslationRequest)
  (context : CoordinationExecutionTranslationContext)
  (policy : CoordinationExecutionTranslationPolicy)

/-- A task of a specialist needs one assignment that is not used yet. Without any, an
optional task of a partial plan may stay untranslated. -/
def chooseAssignment (used : List UUID) (task : CoordinationTask) : TaskChoice :=
  let plan := request.coordinationPlan
  if task.taskType ∉ specialistTypes then .boundary
  else
    match matching plan task with
    | [(assignment, delegation)] =>
        if assignment.assignmentId ∈ used then .reused assignment
        else .assigned assignment delegation
    | matches_ =>
        if task.required = false ∧ plan.status = .partial_ ∧
            policy.allowUnassignedOptionalTasks = true ∧ matches_ = [] then .untranslated
        else .missing

/-- The issues of the scope of a task. -/
def scopeIssues (task : CoordinationTask) (late : Bool) : List ExecutionTranslationIssue :=
  let plan := request.coordinationPlan
  issueWhen (task.organizationId ≠ plan.organizationId) "tenant_mismatch" "Task tenant mismatch"
      task.taskId ++
    issueWhen (task.classification ≠ plan.classification) "classification_mismatch"
      "Task classification mismatch" task.taskId ++
    issueWhen (late = true) "deadline_expired" "Task deadline exceeds coordination deadline"
      task.taskId ++
    issueWhen (task.taskType ∉ specialistTypes ∧ gateTypeOf task.taskType = none)
      "unsupported_task_type" "Coordination task type is unsupported" task.taskId

/-- The issues of an assignment of a task. -/
def assignmentIssues (task : CoordinationTask) (assignment : AgentAssignment) (late : Bool) :
    List ExecutionTranslationIssue :=
  let plan := request.coordinationPlan
  issueWhen (assignment.status ≠ .prepared) "assignment_not_prepared"
      "Assignment is not prepared" task.taskId assignment.assignmentId ++
    issueWhen (assignment.agentId ∉ eligibleAgentIds plan assignment.delegationId)
      "lineage_mismatch" "Assignment agent is absent from validated catalog lineage"
      task.taskId assignment.assignmentId ++
    issueWhen (assignment.role = .secretary ∨ some assignment.role ≠ task.requiredRole)
      "assignment_role_mismatch" "Assignment role mismatch" task.taskId assignment.assignmentId ++
    issueWhen (assignment.approvedCapabilities ≠ task.requiredCapabilities)
      "assignment_capability_mismatch" "Assignment capability mismatch"
      task.taskId assignment.assignmentId ++
    issueWhen (assignment.expectedWorkProductTypes ≠ task.expectedWorkProductTypes)
      "assignment_output_mismatch" "Assignment output mismatch"
      task.taskId assignment.assignmentId ++
    issueWhen (assignment.organizationId ≠ plan.organizationId) "tenant_mismatch"
      "Assignment tenant mismatch" task.taskId assignment.assignmentId ++
    issueWhen (assignment.classification ≠ plan.classification) "classification_mismatch"
      "Assignment classification mismatch" task.taskId assignment.assignmentId ++
    issueWhen (late = true) "deadline_expired"
      "Assignment deadline exceeds coordination deadline" task.taskId assignment.assignmentId

/-- An assignment asks for more than the policy allows. -/
def exceedsContract (task : CoordinationTask) (delegation : DelegationRequest) : Prop :=
  task.requiredCapabilities.length > policy.maximumCapabilities ∨
    task.expectedWorkProductTypes.length > policy.maximumExpectedOutputs ∨
    delegation.inputReferences.length > policy.maximumInputReferences

instance (task : CoordinationTask) (delegation : DelegationRequest) :
    Decidable (exceedsContract policy task delegation) :=
  inferInstanceAs (Decidable (_ ∨ _))

/-- The input of an assignment that a reference is. -/
def inputReference (item : WorkProductReference) : AssignmentExecutionInputReference where
  referenceId := item.referenceId
  referenceType := item.referenceType
  objectId := item.objectId
  sourceExecutionId := item.executionId
  organizationId := item.organizationId
  classification := item.classification
  shaped := item.shaped

/-- The request of an assignment. -/
def assignmentExecutionRequest (task : CoordinationTask) (assignment : AgentAssignment)
    (delegation : DelegationRequest) : Except TranslationError AssignmentExecutionRequest := do
  let deadline ← earlier assignment.deadline request.deadline
  let requestId := requestIdOf request.translationId task.taskId
  rejectIf (prefixedName "request." 180 requestId = false)
    (patternError "'^request\\.[a-z0-9_.-]\x7b1,180\x7d$'")
  pure
    { assignmentExecutionRequestId := requestId
      translationId := request.translationId
      coordinationId := request.coordinationPlan.coordinationId
      taskId := task.taskId
      delegationId := assignment.delegationId
      assignmentId := assignment.assignmentId
      agentDefinitionId := assignment.agentId
      agentRole := assignment.role
      approvedCapabilities := assignment.approvedCapabilities
      inputReferences := delegation.inputReferences.map inputReference
      expectedOutputs := assignment.expectedWorkProductTypes.map fun value =>
        { workProductType := value }
      organizationId := assignment.organizationId
      actorId := assignment.actorId
      correlationId := assignment.correlationId
      causationId := request.causationId
      classification := assignment.classification
      requestedAt := context.translatedAt
      deadline := deadline
      required := task.required
      humanReviewRequired := task.humanReviewRequired
      lineage := [uuidText request.coordinationPlan.coordinationId,
        uuidText assignment.delegationId, uuidText assignment.assignmentId] }

/-- The binding of an assignment. -/
def assignmentExecutionBinding (task : CoordinationTask) (assignment : AgentAssignment) :
    Except TranslationError AssignmentExecutionBinding := do
  let bindingId := bindingIdOf request.translationId task.taskId
  rejectIf (prefixedName "binding." 180 bindingId = false)
    (patternError "'^binding\\.[a-z0-9_.-]\x7b1,180\x7d$'")
  pure
    { bindingId := bindingId
      taskId := task.taskId
      assignmentId := assignment.assignmentId
      executionRequestId := requestIdOf request.translationId task.taskId
      executionStepId := stepIdOf task.taskId
      agentDefinitionId := assignment.agentId
      role := assignment.role
      capabilities := assignment.approvedCapabilities
      required := task.required
      organizationId := assignment.organizationId
      classification := assignment.classification }

/-- What one task adds to a translation. -/
structure TaskTranslation where
  task : CoordinationTask
  issues : List ExecutionTranslationIssue
  translated : Option (AssignmentExecutionRequest × AssignmentExecutionBinding) := none
  untranslated : Bool := false
  used : Option UUID := none

/-- Translate a task with its assignment. -/
def translateAssigned (task : CoordinationTask) (scope : List ExecutionTranslationIssue)
    (assignment : AgentAssignment) (delegation : DelegationRequest) :
    Except TranslationError TaskTranslation := do
  let late ← after assignment.deadline request.deadline
  let issues := scope ++ assignmentIssues request task assignment late
  if exceedsContract policy task delegation then
    pure
      { task := task
        issues := issues ++ issueWhen True "execution_step_limit_exceeded"
          "Assignment contract limit exceeded" task.taskId assignment.assignmentId
        used := some assignment.assignmentId }
  else
    let executionRequest ← assignmentExecutionRequest request context task assignment delegation
    let binding ← assignmentExecutionBinding request task assignment
    pure
      { task := task
        issues := issues
        translated := some (executionRequest, binding)
        used := some assignment.assignmentId }

/-- Translate a task. -/
def translateTask (used : List UUID) (task : CoordinationTask) :
    Except TranslationError TaskTranslation := do
  let late ← after task.deadline request.deadline
  let scope := scopeIssues request task late
  match chooseAssignment request policy used task with
  | .boundary => pure { task := task, issues := scope }
  | .untranslated => pure { task := task, issues := scope, untranslated := true }
  | .missing =>
      pure
        { task := task
          issues := scope ++ issueWhen True "missing_assignment"
            "Task requires one exact assignment" task.taskId }
  | .reused assignment =>
      pure
        { task := task
          issues := scope ++ issueWhen True "duplicate_assignment_id" "Assignment is reused"
            task.taskId assignment.assignmentId }
  | .assigned assignment delegation =>
      translateAssigned request context policy task scope assignment delegation

/-- Translate tasks one after the other, each with the assignments used before it. -/
def translateTasks (used : List UUID) :
    List CoordinationTask → Except TranslationError (List TaskTranslation)
  | [] => .ok []
  | task :: rest => do
      let first ← translateTask request context policy used task
      let later ← translateTasks (used ++ first.used.toList) rest
      pure (first :: later)

/-- The tasks that are executed. -/
def executableTasks (translations : List TaskTranslation) : List CoordinationTask :=
  (translations.filter (·.translated.isSome)).map (·.task)

/-- The issues of the plan as a whole. -/
def planIssues : List ExecutionTranslationIssue :=
  let plan := request.coordinationPlan
  issueWhen (plan.organizationId ≠ request.organizationId) "tenant_mismatch"
      "Coordination tenant mismatch" ++
    issueWhen (¬ (plan.classification = request.classification ∧
        request.classification = context.classification)) "classification_mismatch"
      "Coordination classification mismatch" ++
    issueWhen (¬ (plan.tasks.map (·.taskId)).Nodup) "duplicate_task_id"
      "Coordination task IDs are not unique" ++
    issueWhen (¬ Accepted (validateCoordinationDag plan.tasks)) "dependency_cycle"
      "Coordination dependency graph is invalid" ++
    issueWhen (¬ (plan.assignments.map (·.assignmentId)).Nodup) "duplicate_assignment_id"
      "Assignment IDs are not unique" ++
    issueWhen (plan.assignments.length > policy.maximumAssignmentBindings)
      "execution_step_limit_exceeded" "Assignment binding limit exceeded"

/-- The issues of the steps as a whole. -/
def stepIssues (executable : List CoordinationTask) : List ExecutionTranslationIssue :=
  let plan := request.coordinationPlan
  executable.flatMap (fun task => issueWhen
      ((stepDependencies plan (executable.map (·.taskId)) task).length >
        policy.maximumStepDependencies)
      "dependency_limit_exceeded" "Step dependency limit exceeded" task.taskId) ++
    issueWhen (executable.length > policy.maximumExecutionSteps) "execution_step_limit_exceeded"
      "Execution step limit exceeded"

/-- The issues of required tasks that are not translated and have none yet. -/
def unassignedIssues (executable : List CoordinationTask)
    (issues : List ExecutionTranslationIssue) : List ExecutionTranslationIssue :=
  let required := request.coordinationPlan.tasks.filter fun task =>
    task.required = true ∧ task.taskType ∈ specialistTypes
  let missing := sortedSet ((required.map (·.taskId)).filter (· ∉ executable.map (·.taskId)))
  missing.flatMap fun taskId =>
    issueWhen (¬ ∃ issue ∈ issues, issue.taskId = some taskId) "required_task_unassigned"
      "Required task is not translated" taskId

/-! ## Plans and gates -/

/-- The step of a task. -/
def executionStep (executable : List CoordinationTask) (task : CoordinationTask) :
    Except TranslationError ExecutionStep := do
  let plan := request.coordinationPlan
  let stepId := stepIdOf task.taskId
  let dependencies := stepDependencies plan (executable.map (·.taskId)) task
  let input := JsonValue.object
    [("assignment_request_id", .text (requestIdOf request.translationId task.taskId))]
  match task.requiredRole with
  | none => .error ⟨.missingRole, "'NoneType' object has no attribute 'value'"⟩
  | some role =>
      rejectIf (stepIdPattern stepId = false)
        (patternError "'^[A-Za-z][A-Za-z0-9_.-]\x7b0,99\x7d$'")
      rejectIf (¬ dependencies.Nodup) ⟨.validation, "dependencies must be unique"⟩
      rejectIf (stepId ∈ dependencies) ⟨.validation, "step cannot depend on itself"⟩
      fromExecution (validateJson maxMetadataBytes "step input" 0 input)
      pure
        { stepId := stepId
          sequence := task.orderHint
          dependencies := dependencies
          executionId := request.translationId
          kind := .internalTool
          instruction := "Execute the governed coordination assignment."
          target := "agent." ++ role.value
          input := input
          classification := plan.classification
          required := task.required }

/-- The plan of steps, as the execution checks it. -/
def executionPlan (steps : List ExecutionStep) : Except TranslationError ExecutionPlan :=
  let plan := request.coordinationPlan
  if stepIdentity : ∀ step ∈ steps, step.executionId = request.translationId then
    if stepClassification : ∀ step ∈ steps,
        plan.classification.rank ≤ step.classification.rank then
      if graph : validateDependencyGraph (steps.map (·.toStepLike)) = .ok () then
        .ok
          { planId := request.translationId
            executionId := request.translationId
            version := 1
            objective := "Execute the governed coordination plan."
            steps := steps
            createdAt := context.translatedAt
            plannerName := "coordination-translation"
            plannerVersion := some "1.0"
            classification := plan.classification
            stepIdentity, stepClassification, graph }
      else .error ⟨.executionPlan, "Execution plan dependency graph is invalid"⟩
    else .error ⟨.executionPlan, "step classification cannot be lower than its trusted context"⟩
  else .error ⟨.executionPlan, "Plan step execution identity does not match plan"⟩

/-- The gate of a task. The gates it depends on are those listed up to it. -/
def approvalGate (executable : List CoordinationTask) (listed : List String)
    (gateType : ExecutionGateType) (task : CoordinationTask) :
    Except TranslationError ExecutionApprovalGate := do
  let deadline ← earlier task.deadline request.deadline
  let gateId := gateIdOf task.taskId
  rejectIf (prefixedName "gate." 180 gateId = false)
    (patternError "'^gate\\.[a-z0-9_.-]\x7b1,180\x7d$'")
  pure
    { gateId := gateId
      coordinationTaskId := task.taskId
      gateType := gateType
      dependencyStepIds :=
        stepDependencies request.coordinationPlan (executable.map (·.taskId)) task
      dependencyGateIds :=
        sortedBy id ((task.dependencyTaskIds.filter (· ∈ listed)).map gateIdOf)
      organizationId := task.organizationId
      classification := task.classification
      safeReasonCode := gateType.value
      deadline := deadline }

/-- The gates of tasks, with the gates listed before them. -/
def approvalGates (executable : List CoordinationTask) (listed : List String) :
    List CoordinationTask → Except TranslationError (List ExecutionApprovalGate)
  | [] => .ok []
  | task :: rest =>
      match gateTypeOf task.taskType with
      | none => approvalGates executable listed rest
      | some gateType => do
          let gate ← approvalGate request executable (listed ++ [task.taskId]) gateType task
          let later ← approvalGates executable (listed ++ [task.taskId]) rest
          pure (gate :: later)

/-! ## Results -/

/-- A result without a plan, for one reason. -/
def terminalResult (status : CoordinationExecutionTranslationStatus) (code safeMessage : String) :
    CoordinationExecutionTranslationResult where
  translationId := request.translationId
  coordinationId := request.coordinationPlan.coordinationId
  status := status
  issues := [{ code, safeMessage }]
  validatedTaskIds := []
  organizationId := request.organizationId
  classification := request.classification
  startedAt := context.translatedAt
  completedAt := context.translatedAt
  safeMessage := "Coordination translation produced no execution plan"

/-- The tasks that stay untranslated, in order. -/
def untranslatedIds (translations : List TaskTranslation) : List String :=
  sortedBy id ((translations.filter (·.untranslated)).map (·.task.taskId))

/-- The result of a translation with issues. -/
def rejectedResult (translations : List TaskTranslation)
    (issues : List ExecutionTranslationIssue) : CoordinationExecutionTranslationResult where
  translationId := request.translationId
  coordinationId := request.coordinationPlan.coordinationId
  status := .rejected
  issues := issues
  validatedTaskIds := sortedSet ((executableTasks translations).map (·.taskId))
  untranslatedOptionalTaskIds := untranslatedIds translations
  organizationId := request.organizationId
  classification := request.classification
  startedAt := context.translatedAt
  completedAt := context.translatedAt
  safeMessage := "Coordination translation was rejected"

/-- The result of a translation without issues. -/
def translatedResult (translations : List TaskTranslation) :
    Except TranslationError CoordinationExecutionTranslationResult := do
  let plan := request.coordinationPlan
  let executable := executableTasks translations
  let steps ← collectEach (executionStep request executable) executable
  let ordered ← fromExecution (topologicalStepIds (steps.map (·.toStepLike)))
  let executionPlan ← executionPlan request context
    (ordered.filterMap fun stepId => steps.find? (·.stepId = stepId))
  let gates ← approvalGates request executable [] plan.tasks
  if gates.length > policy.maximumApprovalGates then
    pure (terminalResult request context .rejected "execution_step_limit_exceeded"
      "Approval gate limit exceeded")
  else
    let translatedIds := executable.map (·.taskId)
    pure
      { translationId := request.translationId
        coordinationId := plan.coordinationId
        status := if plan.status = .partial_ then .partial_ else .ready
        issues := []
        validatedTaskIds := translatedIds
        executionPlan := some executionPlan
        assignmentExecutionRequests := translations.filterMap (·.translated.map (·.1))
        assignmentBindings := translations.filterMap (·.translated.map (·.2))
        approvalGates := gates
        translatedTaskIds := translatedIds
        untranslatedOptionalTaskIds := untranslatedIds translations
        blockingGateIds := (gates.filter (·.blocking)).map (·.gateId)
        organizationId := request.organizationId
        classification := request.classification
        startedAt := context.translatedAt
        completedAt := context.translatedAt
        safeMessage := "Coordination translated without execution" }

/-- Translate the tasks of a plan, and make a plan of them where there is no issue. -/
def translateTaskPlan : Except TranslationError CoordinationExecutionTranslationResult := do
  let translations ← translateTasks request context policy [] request.coordinationPlan.tasks
  let executable := executableTasks translations
  let found := planIssues request context policy ++ translations.flatMap (·.issues) ++
    stepIssues request policy executable
  let issues := boundedTranslationIssues (found ++ unassignedIssues request executable found)
    policy.maximumValidationIssues
  if issues ≠ [] then pure (rejectedResult request context translations issues)
  else translatedResult request context policy translations

/-- A request and its context name the same translation. -/
def sameTranslation : Prop :=
  request.translationId = context.translationId ∧
    request.coordinationPlan.coordinationId = context.coordinationId ∧
    request.organizationId = context.organizationId ∧
    request.actorId = context.actorId ∧
    request.correlationId = context.correlationId ∧
    request.deadline = context.deadline

instance : Decidable (sameTranslation request context) :=
  inferInstanceAs (Decidable (_ ∧ _))

/-- Translate coordination metadata; nothing is dispatched. -/
def translateCoordinationPlan :
    Except TranslationError CoordinationExecutionTranslationResult :=
  if ¬ sameTranslation request context then
    .ok (terminalResult request context .rejected "identity_mismatch"
      "Translation identities do not match")
  else if context.cancellationRequested = true then
    .ok (terminalResult request context .cancelled "cancellation_requested"
      "Translation was cancelled")
  else if context.translatedAt ≥ context.deadline then
    .ok (terminalResult request context .expired "deadline_expired"
      "Translation deadline expired")
  else if request.coordinationPlan.status ∉ [.ready, .partial_] then
    .ok (terminalResult request context .rejected "invalid_plan_status"
      "Coordination plan is not translatable")
  else translateTaskPlan request context policy

end PolicyOS.Orchestration
