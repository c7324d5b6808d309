import PolicyOS.Intelligence.Agents

/-!
# Coordination

The tasks the Secretary plans for a purpose, their dependency graph, and the plan that
pairs every task of a specialist with a delegation and, where one agent is eligible, with
an assignment. The identities of both are the caller's.
-/

namespace PolicyOS.Intelligence

open Foundation Execution

/-- What a coordination is for. -/
inductive CoordinationPurpose
  | integratedPolicyReport | legalPolicyReview | executiveBriefing | pressRelease
  | presentationPackage
  deriving DecidableEq, Repr

/-- How urgent a coordination is. -/
inductive CoordinationPriority
  | high | normal | low
  deriving DecidableEq, Repr

/-- What a task does. -/
inductive CoordinationTaskType
  | research | legalReview | budgetAnalysis | statisticsAnalysis | communicationsDraft
  | speechDraft | socialMediaDraft | presentationSpec | integration | qualityReview
  | humanReviewGate
  deriving DecidableEq, Repr

/-- The exception classes of a coordination. -/
inductive CoordinationErrorKind
  | request | identity | classification | dag | agent | validation
  deriving DecidableEq, Repr

/-- A typed failure of a coordination with its message. -/
structure CoordinationError where
  kind : CoordinationErrorKind
  message : String
  deriving DecidableEq, Repr

/-! ## Tasks -/

/-- The data of a task. Its deadline is taken as it is given. -/
structure CoordinationTaskFields where
  taskId : String
  coordinationId : UUID
  taskType : CoordinationTaskType
  title : String
  objective : String
  required : Bool
  priority : CoordinationPriority
  requiredRole : Option AgentRole
  requiredCapabilities : List AgentCapability
  expectedWorkProductTypes : List WorkProductType
  inputReferenceIds : List String
  dependencyTaskIds : List String
  humanReviewRequired : Bool
  classification : DataClassification
  organizationId : UUID
  orderHint : Nat
  deadline : Moment
  deriving DecidableEq

/-- The pattern of task identifiers. -/
def taskIdPattern (taskId : String) : Bool := prefixedName "task." 90 taskId

/-- The checks a task makes on itself. -/
def CoordinationTaskFields.shape (task : CoordinationTaskFields) :
    Except CoordinationError Unit := do
  rejectIf (taskIdPattern task.taskId = false)
    ⟨.validation, "String should match pattern '^task\\.[a-z0-9_.-]\x7b1,90\x7d$'"⟩
  rejectIf (task.orderHint > 49) ⟨.validation, "Input should be less than or equal to 49"⟩

/-- A task of a coordination. -/
structure CoordinationTask extends CoordinationTaskFields where
  shaped : toCoordinationTaskFields.shape = .ok () := by decide
  deriving DecidableEq

/-- Build a task, raising what it checks on itself. -/
def CoordinationTask.validated (fields : CoordinationTaskFields) :
    Except CoordinationError CoordinationTask :=
  buildChecked fields.shape fun shaped => { toCoordinationTaskFields := fields, shaped }

theorem CoordinationTask.taskIdPattern (task : CoordinationTask) :
    Intelligence.taskIdPattern task.taskId = true := by
  have shaped := task.shaped
  simp only [CoordinationTaskFields.shape, bind_eq_ok_iff, exists_unit_iff,
    rejectIf_eq_ok_iff] at shaped
  exact Bool.eq_true_of_not_eq_false shaped.1

/-! ## The dependency graph -/

/-- A task as the graph functions read it. -/
def CoordinationTask.node (task : CoordinationTask) : StepLike where
  stepId := task.taskId
  sequence := task.orderHint
  dependencies := task.dependencyTaskIds

/-- The children of a task, in the order of their identifiers. -/
def taskChildren (nodes : List StepLike) (taskId : String) : List StepKey :=
  sortedBy (·.2) (childrenOf nodes taskId)

/-- Tasks are taken in this order while any is ready. -/
def orderTasks (nodes : List StepLike) : List String :=
  takeReady Prod.snd sortKeys (taskChildren nodes) nodes.length
    (fun taskId => ((dependenciesOf nodes taskId).length : Int))
    (sortKeys ((nodes.filter (·.dependencies.length = 0)).map (·.key))) []

/-- The tasks in the order of their dependencies. -/
def validateCoordinationDag (tasks : List CoordinationTask) :
    Except CoordinationError (List CoordinationTask) := do
  let ids := tasks.map (·.taskId)
  rejectIf (¬ ids.Nodup) ⟨.dag, "Duplicate coordination task ID"⟩
  rejectIf (∃ task ∈ tasks, ∃ dependency ∈ task.dependencyTaskIds,
      dependency ∉ ids ∨ dependency = task.taskId)
    ⟨.dag, "Invalid task dependency"⟩
  let ordered := orderTasks (tasks.map (·.node))
  rejectIf (ordered.length ≠ tasks.length) ⟨.dag, "Coordination tasks contain a cycle"⟩
  pure (ordered.filterMap fun taskId => tasks.find? (·.taskId = taskId))

/-! ## Templates -/

/-- The role, the capabilities and the products of a task type. -/
structure RoleCapabilityMapping where
  role : Option AgentRole
  capabilities : List AgentCapability
  workProductTypes : List WorkProductType
  humanReviewRequired : Bool := false
  deriving DecidableEq

/-- Who does a task, and what they make. -/
def CoordinationTaskType.mapping : CoordinationTaskType → RoleCapabilityMapping
  | research =>
      { role := some .policyResearcher
        capabilities := [.policyResearch]
        workProductTypes := [.policyAnalysis] }
  | legalReview =>
      { role := some .legalReviewer
        capabilities := [.legalCompliance, .legalResearch]
        workProductTypes := [.legalReview]
        humanReviewRequired := true }
  | budgetAnalysis =>
      { role := some .budgetAnalyst
        capabilities := [.budgetAnalysis]
        workProductTypes := [.budgetAnalysis] }
  | statisticsAnalysis =>
      { role := some .statisticsAnalyst
        capabilities := [.statisticsAnalysis, .statisticsValidation]
        workProductTypes := [.statisticalAnalysis] }
  | communicationsDraft =>
      { role := some .communicationsOfficer
        capabilities := [.communicationsPress]
        workProductTypes := [.communicationsDraft]
        humanReviewRequired := true }
  | speechDraft =>
      { role := some .speechWriter
        capabilities := [.speechDraft]
        workProductTypes := [.speechDraft]
        humanReviewRequired := true }
  | socialMediaDraft =>
      { role := some .socialMediaManager
        capabilities := [.socialShort]
        workProductTypes := [.socialContent]
        humanReviewRequired := true }
  | presentationSpec =>
      { role := some .presentationDesigner
        capabilities := [.presentationOutline, .presentationSlides]
        workProductTypes := [.presentationSpec]
        humanReviewRequired := true }
  | integration =>
      { role := some .secretary
        capabilities := [.coordinationIntegrate]
        workProductTypes := [.integratedReview] }
  | qualityReview =>
      { role := some .secretary
        capabilities := [.coordinationReview]
        workProductTypes := [.integratedReview] }
  | humanReviewGate =>
      { role := none
        capabilities := []
        workProductTypes := []
        humanReviewRequired := true }

/-! ## Plans -/

/-- How a plan stands. -/
inductive CoordinationPlanStatus
  | ready | partial_ | rejected | cancelled | expired
  deriving DecidableEq, Repr

/-- A prepared plan. -/
structure CoordinationPlan where
  coordinationId : UUID
  status : CoordinationPlanStatus
  tasks : List CoordinationTask
  delegationRequests : List DelegationRequest
  delegationValidations : List DelegationValidationResult
  assignments : List AgentAssignment
  requiredTaskIds : List String
  optionalTaskIds : List String
  unassignedTaskIds : List String
  humanReviewGateTaskIds : List String
  organizationId : UUID
  classification : DataClassification
  preparedAt : DateTime
  deriving DecidableEq

/-- The task is done by a specialist. -/
def CoordinationTask.assignable (task : CoordinationTask) : Prop :=
  task.requiredRole ∉ [none, some .secretary]

instance (task : CoordinationTask) : Decidable task.assignable :=
  inferInstanceAs (Decidable (_ ∉ _))

/-!
# The graph of the tasks of a plan

What the validation of a coordination graph guarantees: tasks with identifiers of their
own, dependencies that are other tasks, and an order in which every task comes after
everything it depends on.
-/

variable {tasks : List CoordinationTask} {task : CoordinationTask}

/-- The identifiers of the tasks. -/
def taskIds (tasks : List CoordinationTask) : List String := tasks.map (·.taskId)

/-- What a task depends on, by its identifier. -/
def taskDependencies (tasks : List CoordinationTask) : String → List String :=
  dependenciesOf (tasks.map (·.node))

theorem stepIds_nodes : (tasks.map (·.node)).map (·.stepId) = taskIds tasks := by
  rw [List.map_map]
  rfl

theorem taskDependencies_taskId (distinct : (taskIds tasks).Nodup) (present : task ∈ tasks) :
    taskDependencies tasks task.taskId = task.dependencyTaskIds :=
  dependenciesOf_stepId (stepIds_nodes ▸ distinct)
    (List.mem_map_of_mem present : task.node ∈ tasks.map (·.node))

/-- The children of a task are the tasks that depend on it. -/
theorem taskChildren_spec (distinct : (taskIds tasks).Nodup) :
    ChildrenOf Prod.snd ((tasks.map (·.node)).map (·.key)) (taskDependencies tasks)
      (taskChildren (tasks.map (·.node))) := by
  have isDistinct : ((tasks.map (·.node)).map (·.stepId)).Nodup := stepIds_nodes ▸ distinct
  have spec := childrenOf_spec isDistinct
  have alike : ∀ taskId, (taskChildren (tasks.map (·.node)) taskId).Perm
      (sortKeys (childrenOf (tasks.map (·.node)) taskId)) := fun taskId =>
    perm_sortedBy.trans (perm_sortKeys _).symm
  exact
    { known := fun taskId _ isChild => spec.known taskId ((alike taskId).subset isChild)
      counted := fun taskId node isNode => by
        rw [((alike taskId).map Prod.snd).count_eq]
        exact spec.counted taskId node isNode }

/-- What an accepted graph guarantees. -/
structure TaskGraph (tasks : List CoordinationTask) : Prop where
  distinct : (taskIds tasks).Nodup
  known : ∀ task ∈ tasks, ∀ dependency ∈ task.dependencyTaskIds, dependency ∈ taskIds tasks
  ordered : ∃ order, DependencyOrder (taskDependencies tasks) order ∧ order.Perm (taskIds tasks)

theorem TaskGraph.perm (graph : TaskGraph tasks) {others : List CoordinationTask}
    (same : others.Perm tasks) : TaskGraph others where
  distinct := (same.map _).nodup_iff.mpr graph.distinct
  known := fun task present dependency depends =>
    (same.map _).mem_iff.mpr (graph.known task (same.mem_iff.mp present) dependency depends)
  ordered := by
    obtain ⟨order, orderly, all⟩ := graph.ordered
    have alike : taskDependencies others = taskDependencies tasks :=
      dependenciesOf_perm (stepIds_nodes ▸ graph.distinct) (same.map _)
    exact ⟨order, alike ▸ orderly, all.trans (same.map _).symm⟩

theorem orderTasks_complete_iff (distinct : (taskIds tasks).Nodup) :
    (orderTasks (tasks.map (·.node))).length = tasks.length ↔
      ∃ order, DependencyOrder (taskDependencies tasks) order ∧ order.Perm (taskIds tasks) := by
  have isDistinct : ((tasks.map (·.node)).map (·.stepId)).Nodup := stepIds_nodes ▸ distinct
  have complete := takeReady_complete_iff perm_sortKeys (taskChildren_spec distinct)
    (names_keys ▸ isDistinct) (initiallyReady isDistinct)
  rw [names_keys, stepIds_nodes, List.length_map, List.length_map] at complete
  rw [← complete, orderTasks, List.length_map]
  rfl

/-- The tasks of an accepted graph are returned in an order of their dependencies. -/
theorem validateCoordinationDag_eq_ok {ordered : List CoordinationTask}
    (validated : validateCoordinationDag tasks = .ok ordered) :
    TaskGraph tasks ∧ ordered.Perm tasks := by
  simp only [validateCoordinationDag, bind_eq_ok_iff, exists_unit_iff, rejectIf_eq_ok_iff,
    pure_eq_ok_iff, not_not, not_exists, not_and, not_or] at validated
  obtain ⟨distinct, known, complete, rfl⟩ := validated
  rw [← taskIds] at distinct
  refine ⟨⟨distinct, fun task present dependency depends => (known task present dependency
    depends).1, (orderTasks_complete_iff distinct).mp complete⟩, perm_lookup distinct ?_⟩
  have isDistinct : ((tasks.map (·.node)).map (·.stepId)).Nodup := stepIds_nodes ▸ distinct
  obtain ⟨orderly, isTask, -⟩ := (ReadyProgress.initial (names_keys ▸ isDistinct)
    (initiallyReady isDistinct)).takeReady perm_sortKeys (taskChildren_spec distinct)
    (tasks.map (·.node)).length
  rw [names_keys, stepIds_nodes] at isTask
  exact (List.subperm_of_subset orderly.nodup isTask).perm_of_length_le
    (by rw [taskIds, List.length_map]; exact complete.ge)

/-- A graph is accepted exactly when it is one. -/
theorem validateCoordinationDag_accepted_iff :
    Accepted (validateCoordinationDag tasks) ↔ TaskGraph tasks := by
  constructor
  · rintro ⟨ordered, validated⟩
    exact (validateCoordinationDag_eq_ok validated).1
  · intro graph
    simp only [validateCoordinationDag, accepted_bind_iff, exists_unit_iff, rejectIf_eq_ok_iff,
      not_not, not_exists, not_and, not_or]
    refine ⟨graph.distinct, fun task present dependency depends => ⟨graph.known task present
      dependency depends, ?_⟩, (orderTasks_complete_iff graph.distinct).mpr graph.ordered, accepted_ok⟩
    rintro rfl
    obtain ⟨order, orderly, all⟩ := graph.ordered
    have listed : task.taskId ∈ order := all.mem_iff.mpr (List.mem_map_of_mem present)
    refine orderly.not_self_dependency listed ?_
    rwa [taskDependencies_taskId graph.distinct present]

end PolicyOS.Intelligence
