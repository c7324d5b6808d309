import PolicyOS.Execution.Json
import PolicyOS.Execution.Validation

/-!
# Execution contracts

Plans and their steps, the results of steps and of whole executions, and the
typed errors they carry. A contract that validates itself keeps its check as a
field over its own data; a value built while the runtime is running goes through
`validated`, which raises what the check does not admit.
-/

namespace PolicyOS.Execution

open Foundation

/-- What a step does. -/
inductive StepKind
  | knowledgeQuery | connectorCall | internalTool | synthesis | validation
  deriving DecidableEq, Repr

/-- How a step ended, or where it stands. -/
inductive StepStatus
  | pending | running | succeeded | failed | skipped | cancelled | timedOut
  deriving DecidableEq, Repr

/-- How an execution ended, or where it stands. -/
inductive ExecutionStatus
  | pending | running | succeeded | partial_ | failed | cancelled | timedOut
  deriving DecidableEq, Repr

/-- What kind of failure an error reports. -/
inductive ErrorCategory
  | validation | policy | provider | timeout | cancelled | internal
  deriving DecidableEq, Repr

/-- Step statuses that end a step. -/
def StepStatus.terminal : List StepStatus := [succeeded, failed, skipped, cancelled, timedOut]

/-- Execution statuses that end an execution. -/
def ExecutionStatus.terminal : List ExecutionStatus :=
  [succeeded, partial_, failed, cancelled, timedOut]

/-- How often, and how far apart, a step may be attempted. -/
structure RetryPolicy where
  maxAttempts : Nat := 1
  initialDelayMs : Nat := 0
  maxDelayMs : Nat := 0
  backoffMultiplier : Rat := 1
  bounds : (1 ≤ maxAttempts ∧ maxAttempts ≤ 10) ∧ initialDelayMs ≤ 60000 ∧
    maxDelayMs ≤ 300000 ∧ 1 ≤ backoffMultiplier ∧ backoffMultiplier ≤ 10 := by decide
  delayOrder : initialDelayMs ≤ maxDelayMs := by decide
  deriving DecidableEq

/-- One attempt. -/
def RetryPolicy.once : RetryPolicy := {}

/-- A minute. -/
def defaultTimeout : {seconds : Nat // 1 ≤ seconds ∧ seconds ≤ 600} := ⟨60, by decide⟩

/-- A typed, content-safe error. -/
structure ExecutionError where
  code : String
  message : String
  retryable : Bool := false
  category : ErrorCategory
  details : JsonValue := .object []
  deriving DecidableEq

/-- One piece of evidence behind an output. -/
structure EvidenceReference where
  source : String
  recordId : String
  title : Option String := none
  uri : Option String := none
  classification : DataClassification
  deriving DecidableEq

/-- What a step or an execution consumed. -/
structure ExecutionMetrics where
  durationMs : Option Nat := none
  inputUnits : Nat := 0
  outputUnits : Nat := 0
  providerCalls : Nat := 0
  deriving DecidableEq

/-- The trusted context a call is made in. -/
structure ExecutionContext where
  executionId : UUID
  organizationId : UUID
  actorId : UUID
  classification : DataClassification
  correlationId : String
  causationId : Option String := none
  deriving DecidableEq

/-- One step of a plan. -/
structure ExecutionStep extends StepLike where
  executionId : UUID
  kind : StepKind
  instruction : String
  target : String
  input : JsonValue := .object []
  timeoutSeconds : {seconds : Nat // 1 ≤ seconds ∧ seconds ≤ 600} := defaultTimeout
  retryPolicy : RetryPolicy := .once
  classification : DataClassification
  required : Bool := true
  deriving DecidableEq

/-- A plan: steps of one execution, classified no lower than the plan, whose
dependency graph is valid. -/
structure ExecutionPlan where
  planId : UUID
  executionId : UUID
  version : Nat
  objective : String
  steps : List ExecutionStep
  createdAt : DateTime
  plannerName : String
  plannerVersion : Option String := none
  classification : DataClassification
  stepIdentity : ∀ step ∈ steps, step.executionId = executionId := by decide
  stepClassification : ∀ step ∈ steps, classification.rank ≤ step.classification.rank := by decide
  graph : validateDependencyGraph (steps.map (·.toStepLike)) = .ok () := by decide

namespace ExecutionPlan

/-- The steps as the graph functions read them. -/
def nodes (plan : ExecutionPlan) : List StepLike := plan.steps.map (·.toStepLike)

/-- The identifiers of the steps. -/
def stepIds (plan : ExecutionPlan) : List String := plan.steps.map (·.stepId)

/-- The plan's steps in topological order. -/
def topologicalStepIds (plan : ExecutionPlan) : Except ExecutionDomainError (List String) :=
  Execution.topologicalStepIds plan.nodes

theorem graphBound (plan : ExecutionPlan) : GraphBound plan.nodes :=
  GraphBound.of_validate plan.graph

theorem stepIds_nodup (plan : ExecutionPlan) : plan.stepIds.Nodup := by
  have distinct := plan.graphBound.distinct
  rwa [nodes, List.map_map] at distinct

theorem steps_ne_nil (plan : ExecutionPlan) : plan.steps ≠ [] := by
  intro empty
  exact plan.graphBound.nonempty (by rw [nodes, empty, List.map_nil])

theorem step_unique (plan : ExecutionPlan) {first second : ExecutionStep}
    (isFirst : first ∈ plan.steps) (isSecond : second ∈ plan.steps)
    (same : first.stepId = second.stepId) : first = second :=
  List.inj_on_of_nodup_map plan.stepIds_nodup isFirst isSecond same

theorem dependency_mem (plan : ExecutionPlan) {step : ExecutionStep} (present : step ∈ plan.steps)
    {dependency : String} (depends : dependency ∈ step.dependencies) :
    dependency ∈ plan.stepIds := by
  have known := plan.graphBound.known step.toStepLike (List.mem_map_of_mem present) dependency
    depends
  rwa [nodes, List.map_map] at known

theorem exists_order (plan : ExecutionPlan) :
    ∃ order, plan.topologicalStepIds = .ok order ∧
      DependencyOrder (dependenciesOf plan.nodes) order ∧ ∀ stepId ∈ plan.stepIds, stepId ∈ order := by
  obtain ⟨order, computed⟩ := plan.graphBound.acyclic
  obtain ⟨ordered, complete⟩ := topologicalStepIds_order plan.graphBound.distinct computed
  refine ⟨order, computed, ordered, fun stepId listed => complete.mem_iff.mpr ?_⟩
  rwa [nodes, List.map_map]

theorem dependenciesOf_step (plan : ExecutionPlan) {step : ExecutionStep}
    (present : step ∈ plan.steps) :
    dependenciesOf plan.nodes step.stepId = step.dependencies :=
  dependenciesOf_stepId plan.graphBound.distinct (List.mem_map_of_mem present)

end ExecutionPlan

/-- The data of a step result. The count of attempts is bounded by the retry
policy it comes from. -/
structure StepResultFields where
  stepId : String
  status : StepStatus
  startedAt : Option DateTime := none
  completedAt : Option DateTime := none
  output : JsonValue := .null
  error : Option ExecutionError := none
  attemptCount : Nat := 0
  provider : Option String := none
  evidence : List EvidenceReference := []
  metrics : ExecutionMetrics := {}
  deriving DecidableEq

/-- The checks a step result makes on itself. -/
def StepResultFields.consistentStatus (result : StepResultFields) :
    Except ExecutionDomainError Unit := do
  rejectIf (∃ name ∈ result.provider, name.length > 200)
    ⟨.contract, "String should have at most 200 characters"⟩
  rejectIf (result.status ∈ StepStatus.terminal ∧
      (result.startedAt = none ∨ result.completedAt = none))
    ⟨.contract, "terminal step result requires start and completion timestamps"⟩
  rejectIf (∃ startedAt ∈ result.startedAt, ∃ completedAt ∈ result.completedAt,
      completedAt < startedAt)
    ⟨.contract, "step completion cannot precede start"⟩
  rejectIf (result.status = .succeeded ∧ result.error ≠ none)
    ⟨.contract, "successful step result cannot contain an error"⟩
  rejectIf (result.status ∈ [.failed, .timedOut] ∧ result.error = none)
    ⟨.contract, "failed or timed-out step result requires a typed error"⟩

/-- The result of one step. -/
structure StepResult extends StepResultFields where
  consistent : toStepResultFields.consistentStatus = .ok () := by decide
  deriving DecidableEq

/-- Build a step result, raising what it checks on itself. -/
def StepResult.validated (fields : StepResultFields) : Except ExecutionDomainError StepResult :=
  buildChecked fields.consistentStatus fun consistent =>
    { toStepResultFields := fields, consistent }

/-- A built result has the data it was built from. -/
@[simp] theorem StepResult.validated_eq_ok_iff {fields : StepResultFields} {result : StepResult} :
    StepResult.validated fields = .ok result ↔ result.toStepResultFields = fields := by
  rw [StepResult.validated, buildChecked_eq_ok_iff]
  constructor
  · rintro ⟨_, rfl⟩
    rfl
  · rintro rfl
    exact ⟨result.consistent, rfl⟩

/-- The data of an execution result. -/
structure ExecutionResultFields where
  executionId : UUID
  planId : UUID
  status : ExecutionStatus
  stepResults : List StepResult
  finalOutput : JsonValue := .null
  startedAt : DateTime
  completedAt : Option DateTime := none
  error : Option ExecutionError := none
  metrics : ExecutionMetrics := {}
  evidence : List EvidenceReference := []
  deriving DecidableEq

/-- The checks an execution result makes on itself. -/
def ExecutionResultFields.consistentResult (result : ExecutionResultFields) :
    Except ExecutionDomainError Unit := do
  rejectIf (¬ (result.stepResults.map (·.stepId)).Nodup)
    ⟨.contract, "Execution result contains duplicate step results"⟩
  rejectIf (result.status ∈ ExecutionStatus.terminal ∧ result.completedAt = none)
    ⟨.contract, "terminal execution result requires completed_at"⟩
  rejectIf (∃ completedAt ∈ result.completedAt, completedAt < result.startedAt)
    ⟨.contract, "execution completion cannot precede start"⟩
  rejectIf (result.status = .succeeded ∧
      (result.error ≠ none ∨ ∃ step ∈ result.stepResults, step.status ≠ .succeeded))
    ⟨.contract, "successful execution requires successful steps and no error"⟩
  rejectIf (result.status ∈ [.failed, .timedOut] ∧ result.error = none)
    ⟨.contract, "failed or timed-out execution requires a typed error"⟩

/-- The result of a whole execution. -/
structure ExecutionResult extends ExecutionResultFields where
  consistent : toExecutionResultFields.consistentResult = .ok () := by decide
  deriving DecidableEq

/-- Build an execution result, raising what it checks on itself. -/
def ExecutionResult.validated (fields : ExecutionResultFields) :
    Except ExecutionDomainError ExecutionResult :=
  buildChecked fields.consistentResult fun consistent =>
    { toExecutionResultFields := fields, consistent }

/-- A built result has the data it was built from. -/
@[simp] theorem ExecutionResult.validated_eq_ok_iff {fields : ExecutionResultFields}
    {result : ExecutionResult} :
    ExecutionResult.validated fields = .ok result ↔ result.toExecutionResultFields = fields := by
  rw [ExecutionResult.validated, buildChecked_eq_ok_iff]
  constructor
  · rintro ⟨_, rfl⟩
    rfl
  · rintro rfl
    exact ⟨result.consistent, rfl⟩

end PolicyOS.Execution
