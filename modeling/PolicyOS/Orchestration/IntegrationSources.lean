import PolicyOS.Orchestration.Integration
import PolicyOS.Orchestration.StepGraph

/-!
# The sources of an integration

What the checks of an integration guarantee: its tasks are those of specialists in the
order of the graph, every assignment is of one of them, and every product is what one
assignment asked for. So every task has at most one product.
-/

namespace PolicyOS.Orchestration

open Foundation Intelligence

variable {request : SecretaryIntegrationRequest} {context : SecretaryIntegrationContext}
  {plan : CoordinationPlan} {assignments : List AssignmentExecutionRequest}
  {tasks : List CoordinationTask} {task : CoordinationTask} {product : AgentWorkProduct}

/-- An assignment is of a task of its coordination, as the task asks for it. -/
structure AssignmentFits (context : SecretaryIntegrationContext) (tasks : List CoordinationTask)
    (assignment : AssignmentExecutionRequest) : Prop where
  coordinationId : assignment.coordinationId = context.coordinationId
  organizationId : assignment.organizationId = context.organizationId
  classification : assignment.classification = context.classification
  ofTask : ∃ task ∈ tasks, task.taskId = assignment.taskId ∧
    some assignment.agentRole = task.requiredRole ∧
    assignment.outputTypes = task.expectedWorkProductTypes ∧
    assignment.required = task.required ∧
    assignment.humanReviewRequired = task.humanReviewRequired

/-- A collected product is of its coordination, as its assignment asks for it. -/
structure ProductFits (context : SecretaryIntegrationContext)
    (assignments : List AssignmentExecutionRequest)
    (collected : AssignmentWorkProductCollectionResult) : Prop where
  succeeded : collected.runtimeRecord.status = .succeeded
  collectedAt : collected.collectedAt ≤ context.integratedAt
  specialist : collected.workProduct.role ≠ .secretary
  organizationId : collected.workProduct.organizationId = context.organizationId
  classification : collected.workProduct.classification = context.classification
  ofAssignment : ∃ assignment ∈ assignments, assignment.taskId = collected.workProduct.taskId ∧
    fitsAssignment collected assignment

/-- What the checks of an integration guarantee. -/
structure CheckedSources (request : SecretaryIntegrationRequest)
    (context : SecretaryIntegrationContext) (plan : CoordinationPlan)
    (assignments : List AssignmentExecutionRequest) (tasks : List CoordinationTask) : Prop where
  scope : checkScope request context plan = .ok ()
  ordered : ∃ ordered, validateCoordinationDag plan.tasks = .ok ordered ∧
    ordered.filter (·.assignable) = tasks
  assigned : ∀ assignment ∈ assignments, AssignmentFits context tasks assignment
  distinctAssigned : (assignments.map (·.taskId)).Nodup
  collected : ∀ collected ∈ request.collectionResults, ProductFits context assignments collected
  distinctIds : (request.products.map (·.workProductId)).Nodup
  distinctAssignments : (request.products.map (·.assignmentId)).Nodup

/-- An accepted assignment fits, and its task has no earlier one. -/
theorem checkAssignment_eq_ok {earlier : List AssignmentExecutionRequest}
    {assignment : AssignmentExecutionRequest}
    (checked : checkAssignment context tasks earlier assignment = .ok ()) :
    AssignmentFits context tasks assignment ∧ assignment.taskId ∉ earlier.map (·.taskId) := by
  simp only [checkAssignment, bind_eq_ok_iff, exists_unit_iff, rejectIf_eq_ok_iff,
    not_not] at checked
  obtain ⟨coordination, tenant, classified, fresh, ofTask⟩ := checked
  split at ofTask
  · cases ofTask
  · rename_i task found
    simp only [rejectIf_eq_ok_iff, not_or, not_not] at ofTask
    have isTask := List.find?_some found
    exact ⟨⟨coordination, tenant, classified, task, List.mem_of_find?_eq_some found,
      of_decide_eq_true isTask, ofTask⟩, fresh⟩

/-- An accepted product fits, and is no earlier one. -/
theorem checkProduct_eq_ok {earlier : List AssignmentWorkProductCollectionResult}
    {collected : AssignmentWorkProductCollectionResult}
    (checked : checkProduct context assignments earlier collected = .ok ()) :
    ProductFits context assignments collected ∧
      collected.workProduct.workProductId ∉ earlier.map (·.workProduct.workProductId) ∧
      collected.workProduct.assignmentId ∉ earlier.map (·.workProduct.assignmentId) := by
  simp only [checkProduct, bind_eq_ok_iff, exists_unit_iff, rejectIf_eq_ok_iff, not_not,
    not_or, not_lt] at checked
  obtain ⟨succeeded, collectedAt, fresh, specialist, tenant, classified, ofAssignment, -⟩ := checked
  unfold checkLineage at ofAssignment
  split at ofAssignment
  · cases ofAssignment
  · rename_i assignment found
    simp only [rejectIf_eq_ok_iff, not_not] at ofAssignment
    have isAssignment := List.find?_some found
    exact ⟨⟨succeeded, collectedAt, specialist, tenant, classified, assignment,
      List.mem_of_find?_eq_some found, of_decide_eq_true isAssignment, ofAssignment⟩, fresh⟩

/-- What passes the checks has sources that fit. -/
theorem checkedTasks_eq_ok (checked : checkedTasks request context plan assignments = .ok tasks) :
    CheckedSources request context plan assignments tasks := by
  simp only [checkedTasks, specialistTasks, bind_eq_ok_iff, exists_unit_iff, pure_eq_ok_iff,
    mapError_eq_ok_iff] at checked
  obtain ⟨scope, _, ⟨ordered, validated, rfl⟩, assigned, collected, rfl⟩ := checked
  have distinctBy : ∀ {Key : Type} (key : AgentWorkProduct → Key),
      (∀ before item, checkProduct context assignments before item = .ok () →
        key item.workProduct ∉ before.map (key ·.workProduct)) →
      (request.products.map key).Nodup := by
    intro Key key fresh
    rw [SecretaryIntegrationRequest.products, List.map_map]
    exact nodup_of_checkAfter fresh collected
  refine ⟨scope, ⟨ordered, validated, rfl⟩, fun assignment isAssignment => ?_, ?_,
    fun item isItem => ?_, ?_, ?_⟩
  · obtain ⟨_, accepted⟩ := exists_of_checkAfter assigned isAssignment
    exact (checkAssignment_eq_ok accepted).1
  · exact nodup_of_checkAfter (fun _ _ accepted => (checkAssignment_eq_ok accepted).2) assigned
  · obtain ⟨_, accepted⟩ := exists_of_checkAfter collected isItem
    exact (checkProduct_eq_ok accepted).1
  · exact distinctBy (·.workProductId) fun _ _ accepted => (checkProduct_eq_ok accepted).2.1
  · exact distinctBy (·.assignmentId) fun _ _ accepted => (checkProduct_eq_ok accepted).2.2

namespace CheckedSources

variable (sources : CheckedSources request context plan assignments tasks)

include sources

theorem mem_tasks_iff : task ∈ tasks ↔ task ∈ plan.tasks ∧ task.assignable := by
  obtain ⟨ordered, validated, rfl⟩ := sources.ordered
  rw [List.mem_filter, (validateCoordinationDag_eq_ok validated).2.mem_iff, decide_eq_true_iff]

theorem distinctTasks : (taskIds tasks).Nodup := by
  obtain ⟨ordered, validated, rfl⟩ := sources.ordered
  obtain ⟨graph, same⟩ := validateCoordinationDag_eq_ok validated
  exact (graph.perm same).distinct.sublist (List.filter_sublist.map _)

theorem exists_collected (isProduct : product ∈ request.products) :
    ∃ collected ∈ request.collectionResults, collected.workProduct = product ∧
      ProductFits context assignments collected := by
  obtain ⟨collected, isCollected, rfl⟩ := List.mem_map.mp isProduct
  exact ⟨collected, isCollected, rfl, sources.collected collected isCollected⟩

theorem exists_task (isProduct : product ∈ request.products) :
    ∃ task ∈ tasks, task.taskId = product.taskId ∧
      some product.role = task.requiredRole ∧
      task.expectedWorkProductTypes = [product.workProductType] ∧
      product.requiresHumanReview = task.humanReviewRequired := by
  obtain ⟨collected, _, rfl, fits⟩ := sources.exists_collected isProduct
  obtain ⟨assignment, isAssignment, sameTask, -, -, role, types, review, -⟩ := fits.ofAssignment
  obtain ⟨task, isTask, named, roleOf, typesOf, -, reviewOf⟩ :=
    (sources.assigned assignment isAssignment).ofTask
  exact ⟨task, isTask, named.trans sameTask, role ▸ roleOf, typesOf ▸ types, review.trans reviewOf⟩

/-- No task has two products. -/
theorem distinctProducts : (request.products.map (·.taskId)).Nodup := by
  have distinct : request.products.Nodup := List.Nodup.of_map _ sources.distinctAssignments
  refine List.Nodup.map_on ?_ distinct
  intro first isFirst second isSecond same
  obtain ⟨_, _, rfl, fits⟩ := sources.exists_collected isFirst
  obtain ⟨_, _, rfl, fitsSecond⟩ := sources.exists_collected isSecond
  obtain ⟨own, isOwn, ownTask, -, ofOwn, -⟩ := fits.ofAssignment
  obtain ⟨other, isOther, otherTask, -, ofOther, -⟩ := fitsSecond.ofAssignment
  have one : own = other := List.inj_on_of_nodup_map sources.distinctAssigned isOwn isOther
    ((ownTask.trans same).trans otherTask.symm)
  exact List.inj_on_of_nodup_map sources.distinctAssignments isFirst isSecond
    (by rw [ofOwn, ofOther, one])

theorem productOf_eq_some_iff {taskId : String} :
    productOf request.products taskId = some product ↔
      product ∈ request.products ∧ product.taskId = taskId :=
  find?_reverse_key_eq_some_iff sources.distinctProducts

end CheckedSources

/-! ## Sources of research -/

namespace IntegrationSample

/-- The data of a task of a researcher. -/
def taskFields (taskId : String) (required review : Bool) (dependencies : List String) :
    CoordinationTaskFields where
  taskId := taskId
  coordinationId := 1
  taskType := .research
  title := "Research"
  objective := "Prepare the governed work product."
  required := required
  priority := .normal
  requiredRole := some .policyResearcher
  requiredCapabilities := [.policyResearch]
  expectedWorkProductTypes := [.policyAnalysis]
  inputReferenceIds := []
  dependencyTaskIds := dependencies
  humanReviewRequired := review
  classification := .internal
  organizationId := 2
  orderHint := 0
  deadline := .aware 100

/-- A plan of tasks. -/
def planOf (tasks : List CoordinationTask) : CoordinationPlan where
  coordinationId := 1
  status := .ready
  tasks := tasks
  delegationRequests := []
  delegationValidations := []
  assignments := []
  requiredTaskIds := []
  optionalTaskIds := []
  unassignedTaskIds := []
  humanReviewGateTaskIds := []
  organizationId := 2
  classification := .internal
  preparedAt := 0

/-- The assignment of a task without a review. -/
def assignmentOf (taskId : String) : AssignmentExecutionRequest where
  assignmentExecutionRequestId := "request.research"
  translationId := 3
  coordinationId := 1
  taskId := taskId
  delegationId := 4
  assignmentId := 5
  agentDefinitionId := "policy.researcher"
  agentRole := .policyResearcher
  approvedCapabilities := [.policyResearch]
  inputReferences := []
  expectedOutputs := [{ workProductType := .policyAnalysis }]
  organizationId := 2
  actorId := 6
  correlationId := "integration"
  classification := .internal
  requestedAt := 0
  deadline := 100
  required := true
  humanReviewRequired := false
  lineage := []

/-- The product of a task. -/
def productFor (taskId : String) : AgentWorkProduct where
  workProductId := 7
  assignmentRequestId := "request.research"
  assignmentId := 5
  delegationId := 4
  taskId := taskId
  executionId := 8
  agentId := "policy.researcher"
  role := .policyResearcher
  workProductType := .policyAnalysis
  status := .prepared
  content := "Findings"
  references := []
  organizationId := 2
  classification := .internal
  completedAt := 10

/-- The data of the record of the assignment of a task, which succeeded. -/
def recordFields (taskId : String) : AssignmentExecutionRecordFields where
  executionId := 8
  assignmentRequestId := "request.research"
  assignmentId := 5
  taskId := taskId
  executionStepId := "step.research"
  organizationId := 2
  actorId := 6
  classification := .internal
  status := .succeeded
  deadline := 100
  preparedAt := 1
  completedAt := some 10

/-- The scope of an integration. -/
def integrationContext : SecretaryIntegrationContext where
  integrationId := 9
  coordinationId := 1
  organizationId := 2
  classification := .internal
  secretaryActorId := "secretary"
  authorizedSecretaryActorId := "secretary"
  allowedPurpose := .executiveBriefing
  integratedAt := 20

end IntegrationSample

end PolicyOS.Orchestration

/-!
# The gaps of an integration

A gap is named after the tasks it is about. The names of tasks may be long and may hold the
words the names of gaps are made with, so that a name can be too long for a gap, or stand
for two gaps.
-/

namespace PolicyOS.Orchestration

open Intelligence

variable {tasks : List CoordinationTask} {products : List AgentWorkProduct}
  {task other : CoordinationTask} {dependency : String}

/-! ## Where gaps come from -/

/-- What a gap is about. -/
inductive GapSource
  | missing (taskId : String)
  | dependency (taskId dependencyId : String)
  | review (taskId : String)
  deriving DecidableEq

/-- The identifier of the gap after its start. -/
def GapSource.name : GapSource → String
  | .missing taskId => taskName taskId ++ ".missing_product"
  | .dependency taskId dependencyId =>
      taskName taskId ++ ".dependency." ++ taskName dependencyId
  | .review taskId => taskName taskId ++ ".human_review"

/-- The task that has the gap. -/
def GapSource.taskId : GapSource → String
  | .missing taskId => taskId
  | .dependency taskId _ => taskId
  | .review taskId => taskId

/-- The gap is about tasks with identifiers of their pattern. -/
def GapSource.shaped : GapSource → Prop
  | .missing taskId => taskIdPattern taskId = true
  | .dependency taskId dependencyId =>
      taskIdPattern taskId = true ∧ taskIdPattern dependencyId = true
  | .review taskId => taskIdPattern taskId = true

/-- What the gaps of a task are about. -/
def gapSources (tasks : List CoordinationTask) (products : List AgentWorkProduct)
    (task : CoordinationTask) : List GapSource :=
  match productOf products task.taskId with
  | none => [.missing task.taskId]
  | some product =>
      (unresolvedDependencies tasks products task).map (.dependency task.taskId) ++
        if needsReview task product then [.review task.taskId] else []

theorem gapIds_taskGaps : (taskGaps tasks products task).map (·.gapId) =
    (gapSources tasks products task).map fun source => "gap." ++ source.name := by
  unfold taskGaps gapSources
  cases productOf products task.taskId with
  | none => simp [missingGap, GapSource.name, String.append_assoc]
  | some product =>
      by_cases review : needsReview task product = true
      · simp [review, dependencyGap, reviewGap, GapSource.name, String.append_assoc]
      · simp [review, dependencyGap, GapSource.name, String.append_assoc]

/-- A task has a product. -/
def Integrated (products : List AgentWorkProduct) (task : CoordinationTask) : Prop :=
  (productOf products task.taskId).isSome = true

instance decidableIntegrated (products : List AgentWorkProduct) (task : CoordinationTask) :
    Decidable (Integrated products task) :=
  inferInstanceAs (Decidable (_ = true))

theorem not_integrated_iff :
    ¬ Integrated products task ↔ productOf products task.taskId = none := by
  rw [Integrated, Bool.not_eq_true, Option.isSome_eq_false_iff, Option.isNone_iff_eq_none]

/-- A task with a product depends on one without. -/
structure Unresolved (tasks : List CoordinationTask) (products : List AgentWorkProduct)
    (task : CoordinationTask) (dependency : String) : Prop where
  isTask : task ∈ tasks
  integrated : Integrated products task
  unresolved : dependency ∈ unresolvedDependencies tasks products task

variable {source : GapSource}

/-- What the gaps of the tasks are about. -/
theorem mem_gapSources :
    source ∈ tasks.flatMap (gapSources tasks products) ↔
      (∃ task ∈ tasks, ¬ Integrated products task ∧ source = .missing task.taskId) ∨
      (∃ task dependency, Unresolved tasks products task dependency ∧
        source = .dependency task.taskId dependency) ∨
      (∃ task ∈ tasks, (productOf products task.taskId).any (needsReview task) = true ∧
        source = .review task.taskId) := by
  rw [List.mem_flatMap]
  constructor
  · rintro ⟨task, isTask, listed⟩
    unfold gapSources at listed
    cases has : productOf products task.taskId with
    | none =>
        rw [has] at listed
        exact .inl ⟨task, isTask, by simp [Integrated, has], List.mem_singleton.mp listed⟩
    | some product =>
        rw [has] at listed
        rcases List.mem_append.mp listed with isDependency | isReview
        · obtain ⟨dependency, unresolved, rfl⟩ := List.mem_map.mp isDependency
          exact .inr (.inl ⟨task, dependency, ⟨isTask, by simp [Integrated, has], unresolved⟩, rfl⟩)
        · split at isReview
          · rename_i review
            exact .inr (.inr ⟨task, isTask, by simp [has, review], List.mem_singleton.mp isReview⟩)
          · cases isReview
  · rintro (⟨task, isTask, absent, rfl⟩ | ⟨task, dependency, unresolved, rfl⟩ |
      ⟨task, isTask, review, rfl⟩)
    · have none := not_integrated_iff.mp absent
      exact ⟨task, isTask, by simp [gapSources, none]⟩
    · obtain ⟨product, has⟩ := Option.isSome_iff_exists.mp unresolved.integrated
      refine ⟨task, unresolved.isTask, ?_⟩
      rw [gapSources, has]
      exact List.mem_append_left _ (List.mem_map_of_mem unresolved.unresolved)
    · obtain ⟨product, has, review⟩ := (Option.any_eq_true _ _).mp review
      exact ⟨task, isTask, by simp [gapSources, has, review]⟩

theorem shaped_of_mem (listed : source ∈ tasks.flatMap (gapSources tasks products)) :
    source.shaped := by
  rcases mem_gapSources.mp listed with ⟨task, _, _, rfl⟩ | ⟨task, dependency, unresolved, rfl⟩ |
    ⟨task, _, _, rfl⟩
  · exact task.taskIdPattern
  · have known := (of_decide_eq_true (List.mem_filter.mp unresolved.unresolved).2).1
    obtain ⟨other, -, rfl⟩ := List.mem_map.mp known
    exact ⟨task.taskIdPattern, other.taskIdPattern⟩
  · exact task.taskIdPattern

/-! ## The length of a name -/

/-- The names of the tasks leave room for the words between them. -/
def GapSource.fits : GapSource → Prop
  | .dependency taskId dependencyId =>
      (taskName taskId).toList.length + (taskName dependencyId).toList.length ≤ 168
  | _ => True

/-- A gap has an identifier of its pattern exactly if its name fits. -/
theorem prefixedName_gap_iff (shaped : source.shaped) :
    prefixedName "gap." 180 ("gap." ++ source.name) = true ↔ source.fits := by
  have split : ∀ rest : String, ("gap." ++ rest).toList = "gap.".toList ++ rest.toList :=
    fun rest => String.toList_append
  have only : ∀ {rest : List Char},
      ("gap." ++ source.name).toList = "gap.".toList ++ rest → rest = source.name.toList :=
    fun same => (List.append_cancel_left ((split _).symm.trans same)).symm
  have bounds : source.name.toList.all isNameChar = true ∧ 1 ≤ source.name.toList.length ∧
      (source.name.toList.length ≤ 180 ↔ source.fits) := by
    cases source with
    | missing taskId =>
        obtain ⟨-, least, most, named⟩ := toList_taskId shaped
        have words : ".missing_product".toList.all isNameChar = true := by decide
        simp only [GapSource.name, GapSource.fits, String.toList_append, List.all_append, named,
          words, List.length_append]
        exact ⟨rfl, by omega, by simp; omega⟩
    | dependency taskId dependencyId =>
        obtain ⟨-, least, most, named⟩ := toList_taskId shaped.1
        obtain ⟨-, -, -, namedOther⟩ := toList_taskId shaped.2
        have words : ".dependency.".toList.all isNameChar = true := by decide
        simp only [GapSource.name, GapSource.fits, String.toList_append, List.all_append, named,
          namedOther, words, List.length_append]
        exact ⟨rfl, by omega, by simp; omega⟩
    | review taskId =>
        obtain ⟨-, least, most, named⟩ := toList_taskId shaped
        have words : ".human_review".toList.all isNameChar = true := by decide
        simp only [GapSource.name, GapSource.fits, String.toList_append, List.all_append, named,
          words, List.length_append]
        exact ⟨rfl, by omega, by simp; omega⟩
  rw [prefixedName_iff, ← bounds.2.2]
  constructor
  · rintro ⟨rest, same, -, most, -⟩
    exact only same ▸ most
  · exact fun most => ⟨_, split _, bounds.2.1, most, bounds.1⟩

/-! ## Names that stand for two gaps -/

/-- What a name that stands for two gaps is excluded by. Only the gaps of dependencies are
named by two tasks, so one of the two is of a dependency. -/
structure NamesApart (tasks : List CoordinationTask) (products : List AgentWorkProduct) : Prop where
  dependencies : ∀ {task dependency other otherDependency},
    Unresolved tasks products task dependency → Unresolved tasks products other otherDependency →
    taskName task.taskId ++ ".dependency." ++ taskName dependency =
      taskName other.taskId ++ ".dependency." ++ taskName otherDependency →
    task.taskId = other.taskId ∧ dependency = otherDependency
  missing : ∀ {task dependency}, Unresolved tasks products task dependency →
    ∀ other ∈ tasks, ¬ Integrated products other →
      taskName task.taskId ++ ".dependency." ++ taskName dependency ≠
        taskName other.taskId ++ ".missing_product"
  reviews : ∀ {task dependency}, Unresolved tasks products task dependency →
    ∀ other ∈ tasks, (productOf products other.taskId).any (needsReview other) = true →
      taskName task.taskId ++ ".dependency." ++ taskName dependency ≠
        taskName other.taskId ++ ".human_review"

theorem missing_name_ne_review {taskId reviewId : String} :
    (GapSource.missing taskId).name ≠ (GapSource.review reviewId).name := by
  intro same
  have ends := congrArg (fun text : String => text.toList.getLast?) same
  have product : ".missing_product".toList.getLast? = some 't' := by decide
  have review : ".human_review".toList.getLast? = some 'w' := by decide
  simp only [GapSource.name, String.toList_append, List.getLast?_append, product, review,
    Option.some_or] at ends
  exact absurd ends (by decide)

theorem append_right_injective {ending first second : String}
    (same : first ++ ending = second ++ ending) : first = second := by
  rw [← String.toList_inj, String.toList_append, String.toList_append] at same
  exact String.toList_inj.mp (List.append_cancel_right same)

/-- Gaps are told apart by their names exactly where no name of a dependency stands for
another gap. -/
theorem name_injOn_iff :
    (∀ first ∈ tasks.flatMap (gapSources tasks products),
      ∀ second ∈ tasks.flatMap (gapSources tasks products),
        first.name = second.name → first = second) ↔ NamesApart tasks products := by
  constructor
  · intro injective
    refine ⟨fun {task dependency other otherDependency} isFirst isSecond same => ?_,
      fun {task dependency} isFirst other isOther absent same => ?_,
      fun {task dependency} isFirst other isOther review same => ?_⟩
    · have one := injective _ (mem_gapSources.mpr (.inr (.inl ⟨_, _, isFirst, rfl⟩)))
        _ (mem_gapSources.mpr (.inr (.inl ⟨_, _, isSecond, rfl⟩))) same
      exact GapSource.dependency.injEq .. ▸ one
    · have one := injective _ (mem_gapSources.mpr (.inr (.inl ⟨_, _, isFirst, rfl⟩)))
        _ (mem_gapSources.mpr (.inl ⟨_, isOther, absent, rfl⟩)) same
      cases one
    · have one := injective _ (mem_gapSources.mpr (.inr (.inl ⟨_, _, isFirst, rfl⟩)))
        _ (mem_gapSources.mpr (.inr (.inr ⟨_, isOther, review, rfl⟩))) same
      cases one
  · intro apart first isFirst second isSecond same
    rcases mem_gapSources.mp isFirst with ⟨task, isTask, absent, rfl⟩ |
      ⟨task, dependency, unresolved, rfl⟩ | ⟨task, isTask, review, rfl⟩ <;>
    rcases mem_gapSources.mp isSecond with ⟨other, isOther, otherAbsent, rfl⟩ |
      ⟨other, otherDependency, otherUnresolved, rfl⟩ | ⟨other, isOther, otherReview, rfl⟩
    · exact congrArg _ (taskName_injective task.taskIdPattern other.taskIdPattern
        (append_right_injective same))
    · exact absurd same.symm (apart.missing otherUnresolved task isTask absent)
    · exact absurd same missing_name_ne_review
    · exact absurd same (apart.missing unresolved other isOther otherAbsent)
    · obtain ⟨sameTask, sameDependency⟩ := apart.dependencies unresolved otherUnresolved same
      rw [sameTask, sameDependency]
    · exact absurd same (apart.reviews unresolved other isOther otherReview)
    · exact absurd same.symm missing_name_ne_review
    · exact absurd same.symm (apart.reviews otherUnresolved task isTask review)
    · exact congrArg _ (taskName_injective task.taskIdPattern other.taskIdPattern
        (append_right_injective same))

/-- A gap is of the task whose gaps it is among. -/
theorem taskId_of_mem (listed : source ∈ gapSources tasks products task) :
    source.taskId = task.taskId := by
  unfold gapSources at listed
  split at listed
  · rw [List.mem_singleton.mp listed, GapSource.taskId]
  · rcases List.mem_append.mp listed with isDependency | isReview
    · obtain ⟨dependency, -, rfl⟩ := List.mem_map.mp isDependency
      rfl
    · split at isReview
      · rw [List.mem_singleton.mp isReview, GapSource.taskId]
      · cases isReview

/-- A task has no two gaps about one thing exactly where its dependencies without a product
are listed once. -/
theorem nodup_gapSources_iff : (gapSources tasks products task).Nodup ↔
    (Integrated products task → (unresolvedDependencies tasks products task).Nodup) := by
  unfold gapSources Integrated
  cases productOf products task.taskId with
  | none => simp
  | some product =>
      have once : ((unresolvedDependencies tasks products task).map
          (GapSource.dependency task.taskId)).Nodup ↔
            (unresolvedDependencies tasks products task).Nodup :=
        List.nodup_map_iff fun first second same => (GapSource.dependency.inj same).2
      simp only [Option.isSome_some, forall_const, ← once]
      split
      · rw [List.nodup_append]
        refine ⟨fun all => all.1, fun distinct => ⟨distinct, by simp, ?_⟩⟩
        intro first isDependency second isReview same
        obtain ⟨dependency, -, rfl⟩ := List.mem_map.mp isDependency
        exact absurd (same.trans (List.mem_singleton.mp isReview)) (by simp)
      · rw [List.append_nil]

/-- The gaps have identifiers of their own exactly where nothing is listed twice and no name
stands for two gaps. -/
theorem nodup_gapIds_iff (distinct : (taskIds tasks).Nodup) :
    ((tasks.flatMap (taskGaps tasks products)).map (·.gapId)).Nodup ↔
      (∀ task ∈ tasks, Integrated products task →
        (unresolvedDependencies tasks products task).Nodup) ∧ NamesApart tasks products := by
  have ids : (tasks.flatMap (taskGaps tasks products)).map (·.gapId) =
      (tasks.flatMap (gapSources tasks products)).map fun source => "gap." ++ source.name := by
    rw [List.map_flatMap, List.map_flatMap]
    exact List.flatMap_congr fun task _ => gapIds_taskGaps
  have apart : tasks.Pairwise fun first second =>
      List.Disjoint (gapSources tasks products first) (gapSources tasks products second) := by
    refine (List.pairwise_map.mp distinct).imp fun differ => ?_
    intro source ofFirst ofSecond
    exact differ ((taskId_of_mem ofFirst).symm.trans (taskId_of_mem ofSecond))
  have once : (tasks.flatMap (gapSources tasks products)).Nodup ↔
      ∀ task ∈ tasks, Integrated products task →
        (unresolvedDependencies tasks products task).Nodup := by
    rw [List.nodup_flatMap]
    simp only [nodup_gapSources_iff]
    exact and_iff_left apart
  rw [ids, ← once, ← name_injOn_iff]
  constructor
  · intro all
    refine ⟨List.Nodup.of_map _ all, fun first isFirst second isSecond same => ?_⟩
    exact List.inj_on_of_nodup_map all isFirst isSecond (congrArg ("gap." ++ ·) same)
  · rintro ⟨listed, injective⟩
    exact List.Nodup.map_on (fun first isFirst second isSecond same =>
      injective first isFirst second isSecond (append_left_injective same)) listed

end PolicyOS.Orchestration
