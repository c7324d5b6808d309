import PolicyOS.Orchestration.StepGraph

/-!
# The plan of a translation without issues

The steps of executed tasks, the plan that is made of them, and the gates beside it. All
of them are built unless no task is executed or a step carries an identifier that looks
like a secret.
-/

namespace PolicyOS.Orchestration

open Foundation Execution Intelligence

variable {request : CoordinationExecutionTranslationRequest}
  {context : CoordinationExecutionTranslationContext}
  {policy : CoordinationExecutionTranslationPolicy}
  {executable : List CoordinationTask} {task : CoordinationTask}

/-- A moment that compares with an instant. -/
def isAware : Moment → Prop
  | .aware _ => True
  | .naive _ => False

/-- A moment is compared exactly when it is aware. -/
@[simp] theorem accepted_after_iff {moment : Moment} {limit : DateTime} :
    Accepted (after moment limit) ↔ isAware moment := by
  cases moment <;> simp [after, isAware]

/-- The earlier of two is told exactly when it is aware. -/
@[simp] theorem accepted_earlier_iff {moment : Moment} {limit : DateTime} :
    Accepted (earlier moment limit) ↔ isAware moment := by
  cases moment <;> simp [earlier, isAware]

/-! ## Steps -/

/-- The step of a task that is built has its node, and is of the translated plan. -/
theorem executionStep_eq_ok {step : ExecutionStep}
    (built : executionStep request executable task = .ok step) :
    step.toStepLike = stepNode request.coordinationPlan executable task ∧
      step.executionId = request.translationId ∧
      step.classification = request.coordinationPlan.classification := by
  unfold executionStep at built
  cases role : task.requiredRole with
  | none =>
      simp only [role] at built
      cases built
  | some _ =>
      simp only [role, bind_eq_ok_iff, exists_unit_iff, pure_eq_ok_iff] at built
      obtain ⟨-, -, -, -, rfl⟩ := built
      exact ⟨rfl, rfl, rfl⟩

/-- The step of a task of a specialist is built unless its request looks like a secret. -/
theorem executionStep_accepted_iff (graph : TaskGraph request.coordinationPlan.tasks)
    (present : task ∈ request.coordinationPlan.tasks) (hasRole : task.requiredRole ≠ none) :
    Accepted (executionStep request executable task) ↔
      secretValue (requestIdOf request.translationId task.taskId) = false := by
  obtain ⟨role, isRole⟩ := Option.ne_none_iff_exists'.mp hasRole
  have apart : stepIdOf task.taskId ∉ stepDependencies request.coordinationPlan
      (executable.map (·.taskId)) task := by
    intro depends
    obtain ⟨taskId, isExecuted, follows, same⟩ := mem_stepDependencies graph present depends
    obtain ⟨other, -, rfl⟩ := List.mem_map.mp isExecuted
    exact (follows_other graph present follows).2
      (stepIdOf_injective other.taskIdPattern task.taskIdPattern same)
  have input := validateJson_stepInput_iff request.translationId task.taskIdPattern
  rw [← accepted_unit_iff] at input
  simp only [executionStep, isRole, accepted_bind_iff, exists_unit_iff, rejectIf_eq_ok_iff,
    fromExecution_eq_ok_iff, stepIdPattern_stepIdOf task.taskIdPattern, apart, not_not,
    Bool.true_eq_false, not_false_iff, true_and]
  rw [← accepted_unit_iff, input]
  exact ⟨fun built => built.2.1, fun unlike => ⟨nodup_sortedSet, unlike, accepted_ok⟩⟩

/-! ## The plan -/

/-- What the tasks a plan is made of must be. -/
structure Executed (request : CoordinationExecutionTranslationRequest)
    (executable : List CoordinationTask) : Prop where
  executes : Executes request.coordinationPlan executable
  roles : ∀ task ∈ executable, task.requiredRole ≠ none
  fewSteps : executable.length ≤ maxPlanSteps
  fewDependencies : ∀ task ∈ executable, (stepDependencies request.coordinationPlan
    (taskIds executable) task).length ≤ maxDependencies

section Steps

variable {steps : List ExecutionStep}
  (collected : collectEach (executionStep request executable) executable = .ok steps)

include collected in
theorem nodes_of_collected :
    steps.map (·.toStepLike) = executable.map (stepNode request.coordinationPlan executable) :=
  map_of_collectEach (fun built => (executionStep_eq_ok built).1) collected

include collected in
theorem stepIds_of_collected :
    steps.map (·.stepId) = executable.map fun task => stepIdOf task.taskId := by
  have nodes := congrArg (List.map (·.stepId)) (nodes_of_collected collected)
  rwa [List.map_map, List.map_map] at nodes

include collected in
theorem Executed.ordered (executed : Executed request executable) :
    ∃ ordered, topologicalStepIds (steps.map (·.toStepLike)) = .ok ordered := by
  rw [nodes_of_collected collected]
  exact (topologicalStepIds_accepted_iff executed.executes.distinctSteps).mpr
    executed.executes.ordered

include collected in
theorem Executed.perm_ordered (executed : Executed request executable) {ordered : List String}
    (computed : topologicalStepIds (steps.map (·.toStepLike)) = .ok ordered) :
    (ordered.filterMap fun stepId => steps.find? (·.stepId = stepId)).Perm steps := by
  have distinct := executed.executes.distinctSteps
  rw [← nodes_of_collected collected] at distinct
  have all := (topologicalStepIds_order distinct computed).2
  rw [List.map_map] at distinct all
  exact perm_lookup distinct all

include collected in
/-- In any order, the steps of executed tasks are a plan where there is one. -/
theorem Executed.executionPlan_accepted_iff (executed : Executed request executable)
    {arranged : List ExecutionStep} (same : arranged.Perm steps) :
    Accepted (executionPlan request context arranged) ↔ executable ≠ [] := by
  have stepIdentity : ∀ step ∈ arranged, step.executionId = request.translationId := by
    intro step isStep
    obtain ⟨task, -, built⟩ := mem_of_collectEach collected (same.mem_iff.mp isStep)
    exact (executionStep_eq_ok built).2.1
  have stepClassification : ∀ step ∈ arranged,
      request.coordinationPlan.classification.rank ≤ step.classification.rank := by
    intro step isStep
    obtain ⟨task, -, built⟩ := mem_of_collectEach collected (same.mem_iff.mp isStep)
    rw [(executionStep_eq_ok built).2.2]
  have nodes := (same.map (·.toStepLike)).trans (List.Perm.of_eq (nodes_of_collected collected))
  have graph : validateDependencyGraph (arranged.map (·.toStepLike)) = .ok () ↔
      executable ≠ [] := by
    have distinct := executed.executes.distinctSteps
    have ids := nodes.map (·.stepId)
    rw [validateDependencyGraph_iff, dependenciesOf_perm distinct nodes]
    constructor
    · rintro ⟨some, -⟩ rfl
      exact some (List.perm_nil.mp nodes)
    · intro some
      refine ⟨fun none => some ?_, ?_, ids.nodup_iff.mpr distinct, fun node isNode => ?_, ?_⟩
      · rw [none] at nodes
        exact List.map_eq_nil_iff.mp (List.nil_perm.mp nodes)
      · rw [nodes.length_eq, List.length_map]
        exact executed.fewSteps
      · obtain ⟨task, isTask, rfl⟩ := List.mem_map.mp (nodes.mem_iff.mp isNode)
        have present := executed.executes.listed.subset isTask
        refine ⟨executed.fewDependencies task isTask, nodup_sortedSet, fun depends => ?_,
          fun stepId depends => ?_⟩
        · obtain ⟨taskId, isExecuted, follows, alike⟩ :=
            mem_stepDependencies executed.executes.graph present depends
          obtain ⟨other, -, rfl⟩ := List.mem_map.mp isExecuted
          exact (follows_other executed.executes.graph present follows).2
            (stepIdOf_injective other.taskIdPattern task.taskIdPattern alike)
        · obtain ⟨taskId, isExecuted, -, rfl⟩ :=
            mem_stepDependencies executed.executes.graph present depends
          obtain ⟨other, isOther, rfl⟩ := List.mem_map.mp isExecuted
          rw [ids.mem_iff, List.map_map]
          exact List.mem_map_of_mem isOther
      · obtain ⟨order, ordered, all⟩ := executed.executes.ordered
        exact ⟨order, ordered, all.trans ids.symm⟩
  rw [executionPlan, dif_pos stepIdentity, dif_pos stepClassification, ← graph]
  split
  next isGraph => simp [isGraph]
  next isNot => simp [isNot]

end Steps

/-! ## Gates -/

theorem approvalGate_accepted_iff {listed : List String} {gateType : ExecutionGateType} :
    Accepted (approvalGate request executable listed gateType task) ↔ isAware task.deadline := by
  have shaped : prefixedName "gate." 180 (gateIdOf task.taskId) = true :=
    prefixedName_taskName (by decide) task.taskIdPattern
  rw [approvalGate, accepted_bind_iff, ← @accepted_earlier_iff _ request.deadline]
  refine exists_congr fun deadline => and_iff_left ?_
  rw [accepted_bind_iff]
  exact ⟨(), rejectIf_eq_ok_iff.mpr (by simp [shaped]), accepted_ok⟩

/-- The gates of tasks are built exactly when the deadlines of their tasks are aware. -/
theorem approvalGates_accepted_iff (listed : List String) {tasks : List CoordinationTask} :
    Accepted (approvalGates request executable listed tasks) ↔
      ∀ task ∈ tasks, gateTypeOf task.taskType ≠ none → isAware task.deadline := by
  induction tasks generalizing listed with
  | nil => simp [approvalGates]
  | cons task rest ih =>
      rw [approvalGates, List.forall_mem_cons]
      cases gateType : gateTypeOf task.taskType with
      | none => simpa using ih listed
      | some kind =>
          simp only [ne_eq, reduceCtorEq, not_false_eq_true, forall_const]
          rw [← ih (listed ++ [task.taskId]), accepted_bind_iff]
          constructor
          · rintro ⟨gate, built, later⟩
            obtain ⟨gates, areLater, -⟩ := accepted_bind_iff.mp later
            exact ⟨approvalGate_accepted_iff.mp ⟨gate, built⟩, gates, areLater⟩
          · rintro ⟨aware, gates, areLater⟩
            obtain ⟨gate, built⟩ := approvalGate_accepted_iff.mpr aware
            exact ⟨gate, built, accepted_bind_iff.mpr ⟨gates, areLater, accepted_ok⟩⟩

/-! ## The result -/

/-- A translation without issues gives a result unless no task is executed or a request
looks like a secret. -/
theorem Executed.translatedResult_accepted_iff {translations : List TaskTranslation}
    (executed : Executed request (executableTasks translations))
    (gatesAware : ∀ task ∈ request.coordinationPlan.tasks, isAware task.deadline) :
    Accepted (translatedResult request context policy translations) ↔
      executableTasks translations ≠ [] ∧ ∀ task ∈ executableTasks translations,
        secretValue (requestIdOf request.translationId task.taskId) = false := by
  have stepOf : ∀ task ∈ executableTasks translations,
      (Accepted (executionStep request (executableTasks translations) task) ↔
        secretValue (requestIdOf request.translationId task.taskId) = false) :=
    fun task isTask => executionStep_accepted_iff executed.executes.graph
      (executed.executes.listed.subset isTask) (executed.roles task isTask)
  constructor
  · rintro ⟨result, translated⟩
    simp only [translatedResult, bind_eq_ok_iff, fromExecution_eq_ok_iff] at translated
    obtain ⟨steps, collected, ordered, computed, plan, planned, -⟩ := translated
    refine ⟨(executed.executionPlan_accepted_iff collected
      (executed.perm_ordered collected computed)).mp ⟨plan, planned⟩, fun task isTask => ?_⟩
    exact (stepOf task isTask).mp (accepted_collectEach_iff.mp ⟨steps, collected⟩ task isTask)
  · rintro ⟨some, unlike⟩
    obtain ⟨steps, collected⟩ := accepted_collectEach_iff.mpr fun task isTask =>
      (stepOf task isTask).mpr (unlike task isTask)
    obtain ⟨ordered, computed⟩ := executed.ordered collected
    obtain ⟨plan, planned⟩ : Accepted (executionPlan request context _) :=
      (executed.executionPlan_accepted_iff collected
        (executed.perm_ordered collected computed)).mpr some
    obtain ⟨gates, gated⟩ := (approvalGates_accepted_iff []).mpr
      fun task isTask _ => gatesAware task isTask
    simp only [translatedResult, accepted_bind_iff, fromExecution_eq_ok_iff]
    refine ⟨steps, collected, ordered, computed, plan, planned, gates, gated, ?_⟩
    split
    · exact accepted_ok
    · exact accepted_ok

end PolicyOS.Orchestration
