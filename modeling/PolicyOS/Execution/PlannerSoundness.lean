import PolicyOS.Execution.Planner

/-!
# Soundness of planned steps

One step is made of each selected capability, in the order of their phases, and what a step
depends on is decided by the steps made before it. Since work comes before validation and
validation before synthesis, no work is made after a validation that should have waited for it.
-/

namespace PolicyOS.Execution

open Foundation

section Planning

variable {request : ExecutionRequest} {planned : PlannedSteps} {capability : ExecutionCapability}
  {capabilities done : List ExecutionCapability} {step work : ExecutionStep}

/-- Neither validation nor synthesis. -/
def StepKind.isWork : StepKind → Bool
  | .validation | .synthesis => false
  | _ => true

/-- The phase of a step. -/
def StepKind.phase : StepKind → Nat
  | .knowledgeQuery | .connectorCall => 0
  | .internalTool => 1
  | .validation => 2
  | .synthesis => 3

theorem phase_stepKind (capability : ExecutionCapability) :
    (stepKind capability.kind).phase = planningOrder capability := by
  unfold planningOrder
  cases capability.kind <;> rfl

theorem phase_of_isWork {kind : StepKind} (isWork : kind.isWork = true) : kind.phase < 2 := by
  cases kind <;> simp_all [StepKind.isWork, StepKind.phase]

/-- The identifiers of the work among some steps. -/
def workOf (steps : List ExecutionStep) : List String :=
  (steps.filter (·.kind.isWork)).map (·.stepId)

/-- A step waits for what it must among the steps before it. -/
structure Placed (earlier : List ExecutionStep) (step : ExecutionStep) : Prop where
  sequence : step.sequence = earlier.length
  validation : step.kind = .validation → step.dependencies = workOf earlier
  synthesis : step.kind = .synthesis → step.dependencies = earlier.map (·.stepId)

/-- The steps made of some capabilities, each placed after those before it. -/
structure StepsMade (done : List ExecutionCapability) (planned : PlannedSteps) : Prop where
  targets : planned.steps.map (·.target) = done.map (·.capabilityId)
  kinds : planned.steps.map (·.kind) = done.map fun capability => stepKind capability.kind
  workIds : planned.workIds = workOf planned.steps
  placed : ∀ earlier step later, planned.steps = earlier ++ step :: later → Placed earlier step

theorem StepsMade.nil : StepsMade [] {} where
  targets := rfl
  kinds := rfl
  workIds := rfl
  placed := by simp

theorem StepsMade.placed_nextStep (made : StepsMade done planned) :
    Placed planned.steps (nextStep request planned capability) where
  sequence := rfl
  validation isValidation := by
    simp only [nextStep] at isValidation ⊢
    rw [← made.workIds]
    cases kind : capability.kind <;> simp_all [stepKind, nextDependencies]
  synthesis isSynthesis := by
    simp only [nextStep] at isSynthesis ⊢
    cases kind : capability.kind <;> simp_all [stepKind, nextDependencies]

/-- One step more is made of one capability more. -/
theorem StepsMade.add (made : StepsMade done planned) :
    StepsMade (done ++ [capability]) (addStep request planned capability) where
  targets := by simp [addStep, made.targets, nextStep]
  kinds := by simp [addStep, made.kinds, nextStep]
  workIds := by
    simp only [addStep, workOf, List.filter_append, List.map_append]
    rw [made.workIds, workOf]
    cases kind : capability.kind <;>
      simp [nextStep, kind, stepKind, StepKind.isWork]
  placed := by
    intro earlier step later split
    cases later using List.reverseRecOn with
    | nil =>
        obtain ⟨rfl, isLast⟩ := List.append_inj' split rfl
        obtain rfl := List.singleton_inj.mp isLast
        exact made.placed_nextStep
    | append_singleton later last _ =>
        have regrouped : planned.steps ++ [nextStep request planned capability] =
            (earlier ++ step :: later) ++ [last] := by
          simpa [addStep] using split
        exact made.placed earlier step later (List.append_inj' regrouped rfl).1

theorem stepsMade (request : ExecutionRequest) (capabilities : List ExecutionCapability) :
    StepsMade capabilities (capabilities.foldl (addStep request) {}) := by
  induction capabilities using List.reverseRecOn with
  | nil => exact .nil
  | append_singleton done capability ih =>
      rw [List.foldl_append]
      exact ih.add

/-- Steps in the order of their phases, where each is placed. -/
structure WellPlaced (steps : List ExecutionStep) : Prop where
  phases : steps.Pairwise fun first second => first.kind.phase ≤ second.kind.phase
  placed : ∀ earlier step later, steps = earlier ++ step :: later → Placed earlier step

/-- The steps of capabilities in the order of their phases are well placed. -/
theorem wellPlaced_plannedSteps (request : ExecutionRequest)
    (ordered : capabilities.Pairwise fun first second =>
      planningOrder first ≤ planningOrder second) :
    WellPlaced (plannedSteps request capabilities) where
  phases := by
    have made := stepsMade request capabilities
    have phases : (plannedSteps request capabilities).map (·.kind.phase) =
        capabilities.map planningOrder := by
      have mapped := congrArg (List.map StepKind.phase) made.kinds
      simpa [plannedSteps, Function.comp_def, phase_stepKind] using mapped
    have pairwise : ((plannedSteps request capabilities).map (·.kind.phase)).Pairwise (· ≤ ·) := by
      rw [phases]
      exact List.pairwise_map.mpr ordered
    exact List.pairwise_map.mp pairwise
  placed := (stepsMade request capabilities).placed

/-- A validation depends on every step of work. -/
theorem WellPlaced.validation {steps : List ExecutionStep} (placed : WellPlaced steps)
    (isStep : step ∈ steps) (isValidation : step.kind = .validation) (other : work ∈ steps)
    (isWork : work.kind.isWork = true) : work.stepId ∈ step.dependencies := by
  obtain ⟨earlier, later, rfl⟩ := List.append_of_mem isStep
  rw [(placed.placed earlier step later rfl).validation isValidation]
  refine List.mem_map.mpr ⟨work, List.mem_filter.mpr ⟨?_, isWork⟩, rfl⟩
  rcases List.mem_append.mp other with isEarlier | isLater
  · exact isEarlier
  · have before := phase_of_isWork isWork
    have after : step.kind.phase ≤ work.kind.phase := by
      rcases List.mem_cons.mp isLater with rfl | isAfter
      · exact le_refl _
      · exact (List.pairwise_cons.mp (List.pairwise_append.mp placed.phases).2.1).1 work isAfter
    rw [isValidation] at after
    exact absurd before (not_lt.mpr after)

/-- The steps are numbered in the order they are listed. -/
theorem WellPlaced.sequence_lt {steps earlier later : List ExecutionStep}
    (placed : WellPlaced steps) (split : steps = earlier ++ step :: later) (other : work ∈ steps)
    (before : work.sequence < step.sequence) : work ∈ earlier := by
  rw [split] at other
  rcases List.mem_append.mp other with isEarlier | isLater
  · exact isEarlier
  · exfalso
    rcases List.mem_cons.mp isLater with rfl | isAfter
    · exact lt_irrefl _ before
    · obtain ⟨between, rest, rfl⟩ := List.append_of_mem isAfter
      have regrouped : steps = (earlier ++ step :: between) ++ work :: rest := by
        simpa using split
      have own := (placed.placed _ _ _ split).sequence
      have others := (placed.placed _ _ _ regrouped).sequence
      simp only [List.length_append, List.length_cons] at others
      omega

theorem WellPlaced.synthesis {steps : List ExecutionStep} (placed : WellPlaced steps)
    (isStep : step ∈ steps) (isSynthesis : step.kind = .synthesis) (other : work ∈ steps)
    (before : work.sequence < step.sequence) : work.stepId ∈ step.dependencies := by
  obtain ⟨earlier, later, split⟩ := List.append_of_mem isStep
  rw [(placed.placed earlier step later split).synthesis isSynthesis]
  exact List.mem_map_of_mem (placed.sequence_lt split other before)

/-! ## Selection -/

variable {classification : DataClassification} {catalog : CapabilityCatalog} {capabilityId : String}
  {required optional : List String} {selection : Selection}

/-- A required capability is selected by its identifier. -/
theorem capabilityId_of_selectRequired
    (selected : selectRequired classification catalog capabilityId = .ok capability) :
    capability.capabilityId = capabilityId := by
  simp only [selectRequired, bind_eq_ok_iff, exists_unit_iff, pure_eq_ok_iff] at selected
  obtain ⟨_, got, -, rfl⟩ := selected
  unfold CapabilityCatalog.get at got
  split at got
  case h_1 found =>
    obtain rfl := Except.ok.inj got
    simpa using List.find?_some found
  case h_2 => cases got

/-- An optional capability takes nothing away. -/
theorem subset_selectOptional (selection : Selection) (capabilityId : String) :
    selection.selected ⊆ (selectOptional classification catalog selection capabilityId).selected := by
  intro capability isSelected
  unfold selectOptional
  cases catalog.get capabilityId with
  | error _ => exact isSelected
  | ok other =>
      dsimp only
      split
      · exact isSelected
      · split
        · exact isSelected
        · exact List.mem_append_left _ isSelected

theorem subset_foldl_selectOptional (optional : List String) (selection : Selection) :
    selection.selected ⊆
      (optional.foldl (selectOptional classification catalog) selection).selected := by
  induction optional generalizing selection with
  | nil => exact fun _ => id
  | cons capabilityId rest ih =>
      exact fun _ isSelected => ih _ (subset_selectOptional selection capabilityId isSelected)

theorem exists_of_select (selected : select required optional classification catalog = .ok selection)
    (isRequired : capabilityId ∈ required) :
    ∃ capability ∈ selection.selected, capability.capabilityId = capabilityId := by
  simp only [select, bind_eq_ok_iff, pure_eq_ok_iff] at selected
  obtain ⟨chosen, each, rfl⟩ := selected
  obtain ⟨capability, isChosen, own⟩ := exists_of_collectEach each isRequired
  exact ⟨capability, subset_foldl_selectOptional optional ⟨chosen, []⟩ isChosen,
    capabilityId_of_selectRequired own⟩

end Planning

/-! ## Results -/

/-- What a planned execution guarantees. -/
structure PlannerSound (casefold : String → String) (request : ExecutionRequest)
    (context : ExecutionContext) (result : PlannerResult) : Prop where
  acyclic : ∃ order, result.plan.topologicalStepIds = .ok order ∧
    DependencyOrder (dependenciesOf result.plan.nodes) order ∧
      ∀ stepId ∈ result.plan.stepIds, stepId ∈ order
  known : ∀ step ∈ result.plan.steps, ∀ dependency ∈ step.dependencies,
    dependency ∈ result.plan.stepIds
  classification : notLower result.plan.classification context.classification
  required : result.intent.requiredCapabilities =
      (planningRules casefold request.objective).required ∧
    ∀ capabilityId ∈ result.intent.requiredCapabilities,
      ∃ step ∈ result.plan.steps, step.target = capabilityId
  validation : ∀ step ∈ result.plan.steps, step.kind = .validation →
    ∀ work ∈ result.plan.steps, work.kind.isWork = true → work.stepId ∈ step.dependencies
  synthesis : ∀ step ∈ result.plan.steps, step.kind = .synthesis →
    ∀ earlier ∈ result.plan.steps, earlier.sequence < step.sequence →
      earlier.stepId ∈ step.dependencies
  selected : result.selectedCapabilities = result.plan.steps.map (·.target)

/-- What the planner returns is sound. -/
theorem plannerSound_of_planRequest {casefold : String → String} {request : ExecutionRequest}
    {context : ExecutionContext} {catalog : CapabilityCatalog} {invocation : PlannerInvocation}
    {result : PlannerResult}
    (planned : planRequest casefold request context catalog invocation = .ok result) :
    PlannerSound casefold request context result := by
  simp only [planRequest, plannedPlan, bind_eq_ok_iff, exists_unit_iff, mapError_eq_ok_iff,
    buildChecked_eq_ok_iff] at planned
  obtain ⟨-, selection, isSelection, plan, ⟨_, isPlan⟩, inContext, valid, rfl⟩ := planned
  subst isPlan
  have targets := (stepsMade request (sortedBy planningOrder selection.selected)).targets
  have ordered : (sortedBy planningOrder selection.selected).Pairwise fun first second =>
      planningOrder first ≤ planningOrder second := pairwise_sortedBy
  have placed := wellPlaced_plannedSteps request ordered
  simp only [ExecutionPlan.validateContext, requireNotLower, bind_eq_ok_iff, exists_unit_iff,
    rejectIf_eq_ok_iff, not_lt] at inContext
  refine ⟨ExecutionPlan.exists_order _, fun _ isStep _ => ExecutionPlan.dependency_mem _ isStep,
    inContext.2, ⟨rfl, ?_⟩, ?_, ?_, targets.symm⟩
  · intro capabilityId isRequired
    obtain ⟨capability, isSelected, rfl⟩ := exists_of_select isSelection isRequired
    have isTarget : capability.capabilityId ∈
        (plannedSteps request (sortedBy planningOrder selection.selected)).map (·.target) := by
      rw [plannedSteps, targets]
      exact List.mem_map_of_mem (mem_sortedBy.mpr isSelected)
    exact List.mem_map.mp isTarget
  · exact fun _ isStep isValidation _ other isWork =>
      placed.validation isStep isValidation other isWork
  · exact fun _ isStep isSynthesis _ other before =>
      placed.synthesis isStep isSynthesis other before

namespace PlanningSample

/-- A capability that supports every classification. -/
def capability (capabilityId : String) (kind : CapabilityKind) : ExecutionCapability where
  capabilityId := capabilityId
  kind := kind
  supportedClassifications := [.public, .internal, .confidential, .restricted]

/-- The capabilities that a search needs. -/
def catalog : CapabilityCatalog where
  capabilities := [capability policySearch .knowledge, capability finalSynthesis .synthesis,
    capability evidenceValidation .validation]
  uniqueSorted := by decide +kernel

/-- A request whose objective has no keyword. -/
def request : ExecutionRequest where
  executionId := 1
  organizationId := 2
  actorId := 3
  objective := "x"
  classification := .internal
  correlationId := "c"

/-- Its context. -/
def context : ExecutionContext where
  executionId := 1
  organizationId := 2
  actorId := 3
  classification := .public
  correlationId := "c"

/-- The call of the planner. -/
def invocation : PlannerInvocation := ⟨4, 5, 6, "planner", "1"⟩

theorem planned : (planRequest id request context catalog invocation).toOption.isSome := by
  decide +kernel

end PlanningSample

/-- The plan of a search is sound. -/
theorem plannerSound_of_search :
    PlannerSound id PlanningSample.request PlanningSample.context
      (givenValue _ PlanningSample.planned) :=
  plannerSound_of_planRequest (eq_ok_givenValue PlanningSample.planned)

end PolicyOS.Execution
