import PolicyOS.Orchestration.TaskAssignments

/-!
# When a translation gives a result

A plan is translated without issues exactly when it is translatable, which is read off the
plan. A translation gives a result for every plan with comparable deadlines, unless the
plan is translatable and no task of it is assigned, or the request of one looks like a
secret. A ready or partial result has one step, one request and one binding for every
translated task.
-/

namespace PolicyOS.Orchestration

open Foundation Execution Intelligence

variable {request : CoordinationExecutionTranslationRequest}
  {context : CoordinationExecutionTranslationContext}
  {policy : CoordinationExecutionTranslationPolicy}
  {translations : List TaskTranslation} {result : CoordinationExecutionTranslationResult}

/-! ## Translatable plans -/

/-- A plan that is translated without issues. -/
structure Translatable (request : CoordinationExecutionTranslationRequest)
    (context : CoordinationExecutionTranslationContext)
    (policy : CoordinationExecutionTranslationPolicy) : Prop where
  tenant : request.coordinationPlan.organizationId = request.organizationId
  classification : request.coordinationPlan.classification = request.classification ∧
    request.classification = context.classification
  graph : TaskGraph request.coordinationPlan.tasks
  distinctAssignments : (request.coordinationPlan.assignments.map (·.assignmentId)).Nodup
  fewAssignments :
    request.coordinationPlan.assignments.length ≤ policy.maximumAssignmentBindings
  tasks : ∀ task ∈ request.coordinationPlan.tasks, TranslatableTask request policy task
  distinctMatches : (soleIds request.coordinationPlan request.coordinationPlan.tasks).Nodup
  fewDependencies : ∀ task ∈ assignedTasks request.coordinationPlan,
    (stepDependencies request.coordinationPlan (taskIds (assignedTasks request.coordinationPlan))
      task).length ≤ policy.maximumStepDependencies
  fewSteps : (assignedTasks request.coordinationPlan).length ≤ policy.maximumExecutionSteps

/-- The plan as a whole has no issue. -/
theorem planIssues_eq_nil_iff :
    planIssues request context policy = [] ↔
      request.coordinationPlan.organizationId = request.organizationId ∧
      (request.coordinationPlan.classification = request.classification ∧
        request.classification = context.classification) ∧
      TaskGraph request.coordinationPlan.tasks ∧
      (request.coordinationPlan.assignments.map (·.assignmentId)).Nodup ∧
      request.coordinationPlan.assignments.length ≤ policy.maximumAssignmentBindings := by
  simp only [planIssues, List.append_eq_nil_iff, issueWhen_eq_nil_iff, not_not, not_lt,
    validateCoordinationDag_accepted_iff]
  constructor
  · rintro ⟨⟨⟨⟨⟨tenant, classification⟩, -⟩, graph⟩, distinct⟩, few⟩
    exact ⟨tenant, classification, graph, distinct, few⟩
  · rintro ⟨tenant, classification, graph, distinct, few⟩
    exact ⟨⟨⟨⟨⟨tenant, classification⟩, graph.distinct⟩, graph⟩, distinct⟩, few⟩

theorem stepIssues_eq_nil_iff {executable : List CoordinationTask} :
    stepIssues request policy executable = [] ↔
      (∀ task ∈ executable, (stepDependencies request.coordinationPlan (taskIds executable)
        task).length ≤ policy.maximumStepDependencies) ∧
      executable.length ≤ policy.maximumExecutionSteps := by
  simp only [stepIssues, List.append_eq_nil_iff, List.flatMap_eq_nil_iff, issueWhen_eq_nil_iff,
    not_lt]
  rfl

/-- Where every required task is translatable, none is left unassigned. -/
theorem unassignedIssues_eq_nil {found : List ExecutionTranslationIssue}
    (clean : ∀ task ∈ request.coordinationPlan.tasks, TranslatableTask request policy task) :
    unassignedIssues request (assignedTasks request.coordinationPlan) found = [] := by
  rw [unassignedIssues, List.flatMap_eq_nil_iff]
  intro taskId missing
  obtain ⟨listed, unassigned⟩ := List.mem_filter.mp (mem_sortedSet.mp missing)
  obtain ⟨task, isRequired, rfl⟩ := List.mem_map.mp listed
  obtain ⟨present, required⟩ := List.mem_filter.mp isRequired
  obtain ⟨isRequired, specialist⟩ := of_decide_eq_true required
  cases isMatch : soleMatch request.coordinationPlan task with
  | none =>
      have optional := ((clean task present).matched specialist isMatch).1
      rw [isRequired] at optional
      cases optional
  | some found =>
      have assigned : task ∈ assignedTasks request.coordinationPlan :=
        List.mem_filter.mpr ⟨present, by rw [isMatch]; rfl⟩
      exact absurd (List.mem_map_of_mem assigned) (of_decide_eq_true unassigned)

/-- The issues that are reported of translated tasks. -/
def reportedIssues (request : CoordinationExecutionTranslationRequest)
    (context : CoordinationExecutionTranslationContext)
    (policy : CoordinationExecutionTranslationPolicy) (translations : List TaskTranslation) :
    List ExecutionTranslationIssue :=
  let executable := executableTasks translations
  let found := planIssues request context policy ++ translations.flatMap (·.issues) ++
    stepIssues request policy executable
  boundedTranslationIssues (found ++ unassignedIssues request executable found)
    policy.maximumValidationIssues

/-- No issue is reported exactly of a translatable plan. -/
theorem reportedIssues_eq_nil_iff
    (translated : translateTasks request context policy [] request.coordinationPlan.tasks =
      .ok translations) :
    reportedIssues request context policy translations = [] ↔
      Translatable request context policy := by
  have all := translateTasks_eq_ok translated
  simp only [reportedIssues, boundedTranslationIssues, capped_eq_nil_iff, sortedBy_eq_nil_iff,
    List.append_eq_nil_iff, planIssues_eq_nil_iff, stepIssues_eq_nil_iff]
  constructor
  · rintro ⟨⟨⟨⟨tenant, classification, graph, distinct, few⟩, clean⟩, dependencies, steps⟩, -⟩
    rw [all.translated clean] at dependencies steps
    obtain ⟨tasks, matches_, -⟩ := all.issues.mp clean
    exact ⟨tenant, classification, graph, distinct, few, tasks, matches_, dependencies, steps⟩
  · intro translatable
    have clean := all.issues.mpr ⟨translatable.tasks, translatable.distinctMatches, by simp⟩
    have assigned : executableTasks translations = assignedTasks request.coordinationPlan :=
      all.translated clean
    rw [assigned]
    exact ⟨⟨⟨⟨translatable.tenant, translatable.classification, translatable.graph,
      translatable.distinctAssignments, translatable.fewAssignments⟩, clean⟩,
      translatable.fewDependencies, translatable.fewSteps⟩,
      unassignedIssues_eq_nil translatable.tasks⟩

theorem Translatable.executableTasks_eq (translatable : Translatable request context policy)
    (translated : translateTasks request context policy [] request.coordinationPlan.tasks =
      .ok translations) :
    executableTasks translations = assignedTasks request.coordinationPlan := by
  have all := translateTasks_eq_ok translated
  exact all.translated (all.issues.mpr
    ⟨translatable.tasks, translatable.distinctMatches, by simp⟩)

/-- They are what a plan can be made of. -/
theorem Translatable.executed (translatable : Translatable request context policy) :
    Executed request (assignedTasks request.coordinationPlan) where
  executes := ⟨translatable.graph, List.filter_sublist⟩
  roles := by
    intro task assigned
    obtain ⟨present, isMatched⟩ := List.mem_filter.mp assigned
    obtain ⟨found, isMatch⟩ := Option.isSome_iff_exists.mp isMatched
    have fits := (translatable.tasks task present).fits found isMatch
    rw [← fits.role.2]
    simp
  fewSteps := translatable.fewSteps.trans policy.boundedSteps.2
  fewDependencies := fun task assigned =>
    (translatable.fewDependencies task assigned).trans policy.boundedDependencies

/-! ## Results -/

/-- The translation gets as far as the tasks of its plan. -/
structure ReachesTasks (request : CoordinationExecutionTranslationRequest)
    (context : CoordinationExecutionTranslationContext) : Prop where
  same : sameTranslation request context
  notCancelled : context.cancellationRequested = false
  notExpired : context.translatedAt < context.deadline
  status : request.coordinationPlan.status ∈ [.ready, .partial_]

/-- Every deadline that is compared is aware: of all tasks, and of the assignment that is
first matched of every identifier. -/
structure Comparable (plan : CoordinationPlan) : Prop where
  tasks : ∀ task ∈ plan.tasks, isAware task.deadline
  assignments : ∀ assignmentId found, (soleMatches plan plan.tasks).find?
    (·.1.assignmentId = assignmentId) = some found → isAware found.1.deadline

theorem ReachesTasks.translate_eq (reaches : ReachesTasks request context) :
    translateCoordinationPlan request context policy = translateTaskPlan request context policy := by
  rw [translateCoordinationPlan, if_neg (not_not.mpr reaches.same),
    if_neg (by simp [reaches.notCancelled]), if_neg (not_le.mpr reaches.notExpired),
    if_neg (not_not.mpr reaches.status)]

/-- Any other translation ends without a plan, for one reason. -/
theorem translate_of_not_reachesTasks (early : ¬ ReachesTasks request context) :
    ∃ status code safeMessage, status ∉
      [CoordinationExecutionTranslationStatus.ready, CoordinationExecutionTranslationStatus.partial_] ∧
      translateCoordinationPlan request context policy =
        .ok (terminalResult request context status code safeMessage) := by
  rw [translateCoordinationPlan]
  by_cases same : sameTranslation request context
  · rw [if_neg (not_not.mpr same)]
    by_cases cancelled : context.cancellationRequested = true
    · rw [if_pos cancelled]
      exact ⟨.cancelled, _, _, by decide, rfl⟩
    · rw [if_neg cancelled]
      by_cases expired : context.translatedAt ≥ context.deadline
      · rw [if_pos expired]
        exact ⟨.expired, _, _, by decide, rfl⟩
      · rw [if_neg expired]
        by_cases status : request.coordinationPlan.status ∈ [.ready, .partial_]
        · exact absurd ⟨same, Bool.eq_false_of_not_eq_true cancelled, not_le.mp expired, status⟩
            early
        · rw [if_pos status]
          exact ⟨.rejected, _, _, by decide, rfl⟩
  · rw [if_pos same]
    exact ⟨.rejected, _, _, by decide, rfl⟩

theorem translateTasks_accepted_iff_comparable :
    Accepted (translateTasks request context policy [] request.coordinationPlan.tasks) ↔
      Comparable request.coordinationPlan := by
  rw [translateTasks_accepted_iff]
  constructor
  · rintro ⟨tasks, assignments⟩
    exact ⟨tasks, fun assignmentId => assignments assignmentId List.not_mem_nil⟩
  · rintro ⟨tasks, assignments⟩
    exact ⟨tasks, fun assignmentId _ => assignments assignmentId⟩

theorem translateTaskPlan_eq
    (translated : translateTasks request context policy [] request.coordinationPlan.tasks =
      .ok translations) :
    translateTaskPlan request context policy =
      if reportedIssues request context policy translations ≠ [] then
        .ok (rejectedResult request context translations
          (reportedIssues request context policy translations))
      else translatedResult request context policy translations := by
  simp only [translateTaskPlan, translated, reportedIssues, bind, Except.bind, pure, Except.pure]
  exact ite_congr rfl (fun _ => rfl) fun _ => rfl

/-- The tasks of a plan give a result unless deadlines do not compare, or the plan is
translatable and no task is assigned or the request of one looks like a secret. -/
theorem translateTaskPlan_accepted_iff :
    Accepted (translateTaskPlan request context policy) ↔
      Comparable request.coordinationPlan ∧ (Translatable request context policy →
        assignedTasks request.coordinationPlan ≠ [] ∧
          ∀ task ∈ assignedTasks request.coordinationPlan,
            secretValue (requestIdOf request.translationId task.taskId) = false) := by
  rw [← @translateTasks_accepted_iff_comparable request context policy]
  constructor
  · rintro ⟨result, returned⟩
    have tasksTranslated : Accepted
        (translateTasks request context policy [] request.coordinationPlan.tasks) := by
      simp only [translateTaskPlan, bind_eq_ok_iff] at returned
      obtain ⟨translations, translated, -⟩ := returned
      exact ⟨translations, translated⟩
    refine ⟨tasksTranslated, fun translatable => ?_⟩
    obtain ⟨translations, translated⟩ := tasksTranslated
    rw [translateTaskPlan_eq translated,
      if_neg (not_not.mpr ((reportedIssues_eq_nil_iff translated).mpr translatable))] at returned
    have assigned := translatable.executableTasks_eq translated
    have aware := (translateTasks_accepted_iff.mp ⟨translations, translated⟩).1
    have executed := translatable.executed
    rw [← assigned] at executed ⊢
    exact (executed.translatedResult_accepted_iff aware).mp ⟨result, returned⟩
  · rintro ⟨⟨translations, translated⟩, unlike⟩
    rw [translateTaskPlan_eq translated]
    by_cases translatable : Translatable request context policy
    · rw [if_neg (not_not.mpr ((reportedIssues_eq_nil_iff translated).mpr translatable))]
      have assigned := translatable.executableTasks_eq translated
      have aware := (translateTasks_accepted_iff.mp ⟨translations, translated⟩).1
      have executed := translatable.executed
      have named := unlike translatable
      rw [← assigned] at executed named
      exact (executed.translatedResult_accepted_iff aware).mpr named
    · rw [if_pos fun none => translatable ((reportedIssues_eq_nil_iff translated).mp none)]
      exact accepted_ok

/-! ## Ready and partial results -/

/-- How a ready or partial result was made. -/
structure Translated (request : CoordinationExecutionTranslationRequest)
    (context : CoordinationExecutionTranslationContext)
    (policy : CoordinationExecutionTranslationPolicy)
    (result : CoordinationExecutionTranslationResult) : Prop where
  translatable : Translatable request context policy
  executionPlan : ∃ made, result.executionPlan = some made ∧
    ∃ steps, collectEach (executionStep request (assignedTasks request.coordinationPlan))
      (assignedTasks request.coordinationPlan) = .ok steps ∧ made.steps.Perm steps
  gates : approvalGates request (assignedTasks request.coordinationPlan) []
    request.coordinationPlan.tasks = .ok result.approvalGates
  translatedTaskIds : result.translatedTaskIds = taskIds (assignedTasks request.coordinationPlan)
  requests : result.assignmentExecutionRequests.map (·.taskId) =
    taskIds (assignedTasks request.coordinationPlan)
  bindings : result.assignmentBindings.map (·.taskId) =
    taskIds (assignedTasks request.coordinationPlan)

/-- The steps of a built plan are those it was built of. -/
theorem steps_of_executionPlan {steps : List ExecutionStep} {plan : ExecutionPlan}
    (built : executionPlan request context steps = .ok plan) : plan.steps = steps := by
  by_cases stepIdentity : ∀ step ∈ steps, step.executionId = request.translationId
  · by_cases stepClassification : ∀ step ∈ steps,
        request.coordinationPlan.classification.rank ≤ step.classification.rank
    · rw [executionPlan, dif_pos stepIdentity, dif_pos stepClassification] at built
      split at built
      · cases built
        rfl
      · cases built
    · rw [executionPlan, dif_pos stepIdentity, dif_neg stepClassification] at built
      cases built
  · rw [executionPlan, dif_neg stepIdentity] at built
    cases built

/-- A ready or partial result is made of the translated tasks of a translatable plan. -/
theorem translatedResult_of_ready
    (returned : translateCoordinationPlan request context policy = .ok result)
    (ready : result.status ∈ [.ready, .partial_]) :
    Translatable request context policy ∧ ∃ translations,
      translateTasks request context policy [] request.coordinationPlan.tasks =
          .ok translations ∧
        translatedResult request context policy translations = .ok result := by
  by_cases reaches : ReachesTasks request context
  · rw [reaches.translate_eq] at returned
    obtain ⟨translations, translated⟩ := translateTasks_accepted_iff_comparable.mpr
      (translateTaskPlan_accepted_iff.mp ⟨result, returned⟩).1
    rw [translateTaskPlan_eq translated] at returned
    by_cases isClean : reportedIssues request context policy translations = []
    · rw [if_neg (not_not.mpr isClean)] at returned
      exact ⟨(reportedIssues_eq_nil_iff translated).mp isClean, translations, translated, returned⟩
    · rw [if_pos isClean] at returned
      cases returned
      exact absurd ready (by simp [rejectedResult])
  · obtain ⟨status, code, safeMessage, other, ended⟩ :=
      translate_of_not_reachesTasks reaches
    rw [ended] at returned
    cases returned
    exact absurd ready other

/-- A ready or partial result is made of the assigned tasks. -/
theorem translated_of_ready
    (returned : translateCoordinationPlan request context policy = .ok result)
    (ready : result.status ∈ [.ready, .partial_]) : Translated request context policy result := by
  obtain ⟨translatable, translations, translated, made⟩ := translatedResult_of_ready returned ready
  have all := translateTasks_eq_ok translated
  have assigned := translatable.executableTasks_eq translated
  have requests := all.requests
  have bindings := all.bindings
  simp only [translatedResult, bind_eq_ok_iff, fromExecution_eq_ok_iff] at made
  rw [assigned] at made requests bindings
  obtain ⟨steps, collected, ordered, computed, plan, planned, gates, gated, made⟩ := made
  split at made
  · cases made
    exact absurd ready (by simp [terminalResult])
  · cases made
    exact ⟨translatable, ⟨plan, rfl, steps, collected, steps_of_executionPlan planned ▸
      translatable.executed.perm_ordered collected computed⟩, gated, rfl, requests, bindings⟩

/-- A result with a plan of exactly one step for every translated task, and one request
and one binding; none of these for a task that is not one of a specialist. -/
structure OneEach (plan : CoordinationPlan) (result : CoordinationExecutionTranslationResult) :
    Prop where
  executionPlan : ∃ made, result.executionPlan = some made ∧
    (made.steps.map (·.stepId)).Perm (result.translatedTaskIds.map stepIdOf) ∧
    (made.steps.map (·.stepId)).Nodup ∧
    ∀ task ∈ plan.tasks, task.taskType ∉ specialistTypes →
      stepIdOf task.taskId ∉ made.steps.map (·.stepId)
  distinct : result.translatedTaskIds.Nodup
  requests : result.assignmentExecutionRequests.map (·.taskId) = result.translatedTaskIds
  bindings : result.assignmentBindings.map (·.taskId) = result.translatedTaskIds
  specialists : ∀ taskId ∈ result.translatedTaskIds, ∃ task ∈ plan.tasks,
    task.taskId = taskId ∧ task.taskType ∈ specialistTypes
  boundaries : ∀ task ∈ plan.tasks, task.taskType ∉ specialistTypes →
    task.taskId ∉ result.translatedTaskIds

theorem specialist_of_assigned {plan : CoordinationPlan} {task : CoordinationTask}
    (assigned : task ∈ assignedTasks plan) :
    task ∈ plan.tasks ∧ task.taskType ∈ specialistTypes := by
  obtain ⟨present, isMatched⟩ := List.mem_filter.mp assigned
  obtain ⟨found, isMatch⟩ := Option.isSome_iff_exists.mp isMatched
  exact ⟨present, specialist_of_soleMatch isMatch⟩

/-- A ready or partial result has one of everything. -/
theorem Translated.oneEach (translated : Translated request context policy result) :
    OneEach request.coordinationPlan result := by
  have executes := translated.translatable.executed.executes
  obtain ⟨plan, isPlan, steps, collected, same⟩ := translated.executionPlan
  have ids : (plan.steps.map (·.stepId)).Perm
      ((assignedTasks request.coordinationPlan).map fun task => stepIdOf task.taskId) :=
    (same.map _).trans (List.Perm.of_eq (stepIds_of_collected collected))
  have apart : ∀ task ∈ request.coordinationPlan.tasks, task.taskType ∉ specialistTypes →
      ∀ other ∈ assignedTasks request.coordinationPlan, other.taskId ≠ task.taskId := by
    intro task present boundary other assigned sameId
    obtain ⟨isTask, specialist⟩ := specialist_of_assigned assigned
    obtain rfl := List.inj_on_of_nodup_map executes.graph.distinct isTask present sameId
    exact boundary specialist
  have distinctSteps := executes.distinctSteps
  rw [List.map_map] at distinctSteps
  have listed := translated.translatedTaskIds
  refine ⟨⟨plan, isPlan, ?_, ids.nodup_iff.mpr distinctSteps, ?_⟩, ?_, ?_, ?_, ?_, ?_⟩
  · rw [listed, taskIds, List.map_map]
    exact ids
  · intro task present boundary isStep
    obtain ⟨other, assigned, alike⟩ := List.mem_map.mp (ids.mem_iff.mp isStep)
    exact apart task present boundary other assigned
      (stepIdOf_injective other.taskIdPattern task.taskIdPattern alike)
  · rw [listed]
    exact executes.distinct
  · rw [listed, translated.requests]
  · rw [listed, translated.bindings]
  · rw [listed]
    intro taskId isTranslated
    obtain ⟨task, assigned, rfl⟩ := List.mem_map.mp isTranslated
    obtain ⟨present, specialist⟩ := specialist_of_assigned assigned
    exact ⟨task, present, rfl, specialist⟩
  · rw [listed]
    intro task present boundary isTranslated
    obtain ⟨other, assigned, sameId⟩ := List.mem_map.mp isTranslated
    exact apart task present boundary other assigned sameId

/-! ## The translation as a whole -/

/-- The translation returns a result, and one that is ready or partial has one of
everything. -/
def TranslatesTotally (request : CoordinationExecutionTranslationRequest)
    (context : CoordinationExecutionTranslationContext)
    (policy : CoordinationExecutionTranslationPolicy) : Prop :=
  ∃ result, translateCoordinationPlan request context policy = .ok result ∧
    (result.status ∈ [.ready, .partial_] → OneEach request.coordinationPlan result)

/-- A translation that gets to the tasks of its plan needs deadlines that compare and, of a
translatable plan, a task that is assigned and no request that looks like a secret. Any
other translation gives a result as it is. -/
theorem translatesTotally_iff (request : CoordinationExecutionTranslationRequest)
    (context : CoordinationExecutionTranslationContext)
    (policy : CoordinationExecutionTranslationPolicy) :
    TranslatesTotally request context policy ↔
      (ReachesTasks request context → Comparable request.coordinationPlan ∧
        (Translatable request context policy → assignedTasks request.coordinationPlan ≠ [] ∧
          ∀ task ∈ assignedTasks request.coordinationPlan,
            secretValue (requestIdOf request.translationId task.taskId) = false)) := by
  constructor
  · rintro ⟨result, returned, -⟩ reaches
    rw [reaches.translate_eq] at returned
    exact translateTaskPlan_accepted_iff.mp ⟨result, returned⟩
  · intro condition
    have returns : Accepted (translateCoordinationPlan request context policy) := by
      by_cases reaches : ReachesTasks request context
      · rw [reaches.translate_eq]
        exact translateTaskPlan_accepted_iff.mpr (condition reaches)
      · obtain ⟨status, code, safeMessage, -, ended⟩ := translate_of_not_reachesTasks reaches
        rw [ended]
        exact accepted_ok
    obtain ⟨result, returned⟩ := returns
    exact ⟨result, returned, fun ready => (translated_of_ready returned ready).oneEach⟩

/-! ## A plan of oddly named tasks -/

namespace Sample

/-- A task of a sample plan. -/
def taskFields (taskId : String) (taskType : CoordinationTaskType)
    (dependencies : List String) : CoordinationTaskFields where
  taskId := taskId
  coordinationId := 1
  taskType := taskType
  title := "Task"
  objective := "Prepare the governed work product."
  required := true
  priority := .normal
  requiredRole := taskType.mapping.role
  requiredCapabilities := taskType.mapping.capabilities
  expectedWorkProductTypes := taskType.mapping.workProductTypes
  inputReferenceIds := []
  dependencyTaskIds := dependencies
  humanReviewRequired := false
  classification := .internal
  organizationId := 2
  orderHint := 0
  deadline := .aware 100

/-- The delegation of a sample task. -/
def delegationFields (delegationId : UUID) (role : AgentRole) (task : CoordinationTask) :
    DelegationRequestFields where
  delegationId := delegationId
  rootDelegationId := delegationId
  requestingAgentId := "office.secretary"
  requestedRole := role
  requiredCapabilities := task.requiredCapabilities
  objective := task.objective
  inputReferences := []
  expectedWorkProductTypes := task.expectedWorkProductTypes
  organizationId := 2
  actorId := 3
  correlationId := "translation"
  classification := .internal
  delegationDepth := 0
  issuedAt := 0
  deadline := 100

/-- Its assignment to an agent. -/
def assignment (assignmentId : UUID) (agentId : String) (delegation : DelegationRequest) :
    AgentAssignment where
  assignmentId := assignmentId
  delegationId := delegation.delegationId
  agentId := agentId
  role := delegation.requestedRole
  approvedCapabilities := delegation.requiredCapabilities
  expectedWorkProductTypes := delegation.expectedWorkProductTypes
  organizationId := 2
  actorId := 3
  correlationId := "translation"
  classification := .internal
  deadline := .aware 100

/-- A sample plan of tasks, with the delegations and assignments of its specialists. -/
def samplePlan (tasks : List CoordinationTask) (delegations : List DelegationRequest)
    (assignments : List AgentAssignment) : CoordinationPlan where
  coordinationId := 1
  status := .ready
  tasks := tasks
  delegationRequests := delegations
  delegationValidations := assignments.map fun assignment =>
    { issues := [], eligibleAgentIds := [assignment.agentId] }
  assignments := assignments
  requiredTaskIds := tasks.map (·.taskId)
  optionalTaskIds := []
  unassignedTaskIds := []
  humanReviewGateTaskIds := []
  organizationId := 2
  classification := .internal
  preparedAt := 0

/-- The request to translate a sample plan. -/
def translationOf (plan : CoordinationPlan) : CoordinationExecutionTranslationRequest where
  translationId := 4
  coordinationPlan := plan
  organizationId := 2
  actorId := 3
  correlationId := "translation"
  classification := .internal
  issuedAt := 0
  deadline := 100

/-- The context it is translated in. -/
def sampleContext : CoordinationExecutionTranslationContext where
  translationId := 4
  coordinationId := 1
  organizationId := 2
  actorId := 3
  correlationId := "translation"
  classification := .internal
  translatedAt := 1
  deadline := 100

/-- A research task with `sk-` in its name, followed by many characters of a name. -/
def riskTask : CoordinationTask :=
  givenValue (CoordinationTask.validated (taskFields "task.risk-assessment-report" .research []))
    (by decide +kernel)

/-- The delegation of the research. -/
def riskDelegation : DelegationRequest :=
  givenValue (DelegationRequest.validated (delegationFields 5 .policyResearcher riskTask)) (by decide +kernel)

/-- The plan of the research. -/
def riskPlan : CoordinationPlan :=
  samplePlan [riskTask] [riskDelegation] [assignment 6 "policy.researcher" riskDelegation]

end Sample

/-- The research is assigned as it should be, and the translation of its plan raises. -/
theorem not_translatesTotally_riskPlan :
    ¬ TranslatesTotally (Sample.translationOf Sample.riskPlan) Sample.sampleContext {} := by
  rintro ⟨result, returned, -⟩
  have raised : ¬ Accepted
      (translateCoordinationPlan (Sample.translationOf Sample.riskPlan) Sample.sampleContext {}) := by
    decide +kernel
  exact raised ⟨result, returned⟩

end PolicyOS.Orchestration
