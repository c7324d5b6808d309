import PolicyOS.Orchestration.IntegrationSources

/-!
# What an integration yields

Over checked sources an integration returns a result unless a section or a gap cannot be
built, and that depends on the names and the number of the tasks alone. What it returns has
the sections in the order of the graph, one for every product, and tells for every task of a
specialist that it has a section or that its product is missing.
-/

namespace PolicyOS.Orchestration

open Foundation Intelligence

variable {request : SecretaryIntegrationRequest} {context : SecretaryIntegrationContext}
  {plan : CoordinationPlan} {assignments : List AssignmentExecutionRequest}
  {tasks : List CoordinationTask} {products : List AgentWorkProduct}
  {task : CoordinationTask} {product : AgentWorkProduct}
  {integrated : List (List SecretaryIntegrationGap × List SecretaryIntegrationSection)}

/-! ## Building sections and gaps -/

/-- What sections and gaps can be built of: every task expects a product, those with one are
among the first fifty, the names of two tasks fit in one gap, and no gap is named twice. -/
structure Nameable (tasks : List CoordinationTask) (products : List AgentWorkProduct) : Prop where
  expects : ∀ task ∈ tasks, task.expectedWorkProductTypes ≠ []
  placed : ∀ task ∈ tasks, Integrated products task → (taskIds tasks).idxOf task.taskId ≤ 49
  fits : ∀ task dependency, Unresolved tasks products task dependency →
    (taskName task.taskId).toList.length + (taskName dependency).toList.length ≤ 168
  once : ∀ task ∈ tasks, Integrated products task →
    (unresolvedDependencies tasks products task).Nodup
  apart : NamesApart tasks products

/-- A section is built exactly if its place is below fifty. -/
theorem accepted_section_iff :
    Accepted (SecretaryIntegrationSection.validated (productSection tasks task product)) ↔
      (taskIds tasks).idxOf task.taskId ≤ 49 := by
  obtain ⟨split, least, most, -⟩ := toList_taskId task.taskIdPattern
  have named : prefixedName "section." 180 ("section." ++ taskName task.taskId) = true :=
    prefixedName_taskName (by omega) task.taskIdPattern
  have long : task.taskId.toList.length = 5 + (taskName task.taskId).toList.length := by
    rw [split, List.length_append]
    rfl
  rw [SecretaryIntegrationSection.validated, accepted_buildChecked_iff]
  simp only [SecretaryIntegrationSectionFields.shape, productSection, bind_eq_ok_iff,
    exists_unit_iff, rejectIf_eq_ok_iff, named, long]
  constructor
  · rintro ⟨-, -, -, place⟩
    exact not_lt.mp (rejectIf_eq_ok_iff.mp place)
  · exact fun place => ⟨by simp, by omega, by omega, rejectIf_eq_ok_iff.mpr (not_lt.mpr place)⟩

/-- The gaps of the tasks are built exactly if the names of two tasks fit in one. -/
theorem accepted_gaps_iff :
    (∀ task ∈ tasks, ∀ gap ∈ taskGaps tasks products task,
      Accepted (SecretaryIntegrationGap.validated gap)) ↔
    ∀ task dependency, Unresolved tasks products task dependency →
      (taskName task.taskId).toList.length + (taskName dependency).toList.length ≤ 168 := by
  have built : ∀ gap : SecretaryIntegrationGapFields,
      Accepted (SecretaryIntegrationGap.validated gap) ↔
        prefixedName "gap." 180 gap.gapId = true := fun gap => by
    rw [SecretaryIntegrationGap.validated, accepted_buildChecked_iff,
      SecretaryIntegrationGapFields.shape, rejectIf_eq_ok_iff, Bool.not_eq_false]
  have named : ∀ task, (∀ gap ∈ taskGaps tasks products task,
      prefixedName "gap." 180 gap.gapId = true) ↔
        ∀ source ∈ gapSources tasks products task,
          prefixedName "gap." 180 ("gap." ++ source.name) = true := fun task => by
    rw [← List.forall_mem_map (f := fun source : GapSource => "gap." ++ source.name)
      (P := fun id => prefixedName "gap." 180 id = true), ← gapIds_taskGaps, List.forall_mem_map]
  simp only [built, named]
  constructor
  · intro all task dependency unresolved
    have listed := mem_gapSources.mpr (.inr (.inl ⟨_, _, unresolved, rfl⟩))
    obtain ⟨own, isOwn, ofOwn⟩ := List.mem_flatMap.mp listed
    exact (prefixedName_gap_iff (shaped_of_mem listed)).mp (all own isOwn _ ofOwn)
  · intro fits task isTask source ofTask
    have listed := List.mem_flatMap.mpr ⟨task, isTask, ofTask⟩
    refine (prefixedName_gap_iff (shaped_of_mem listed)).mpr ?_
    rcases mem_gapSources.mp listed with ⟨_, _, _, rfl⟩ | ⟨own, dependency, unresolved, rfl⟩ |
      ⟨_, _, _, rfl⟩
    · trivial
    · exact fits own dependency unresolved
    · trivial

/-- Sections and gaps are built exactly if all tasks expect a product, the tasks with one
are among the first fifty, and the names of two tasks fit in one gap. -/
theorem accepted_integrateTasks_iff :
    Accepted (collectEach (integrateTask tasks products) tasks) ↔
      (∀ task ∈ tasks, task.expectedWorkProductTypes ≠ []) ∧
      (∀ task ∈ tasks, Integrated products task → (taskIds tasks).idxOf task.taskId ≤ 49) ∧
      ∀ task dependency, Unresolved tasks products task dependency →
        (taskName task.taskId).toList.length + (taskName dependency).toList.length ≤ 168 := by
  have sections : ∀ task, (∀ item ∈ taskSections tasks products task,
      Accepted (SecretaryIntegrationSection.validated item)) ↔
        (Integrated products task → (taskIds tasks).idxOf task.taskId ≤ 49) := fun task => by
    unfold taskSections Integrated
    cases productOf products task.taskId with
    | none => simp
    | some product => simp [accepted_section_iff]
  have each : ∀ task, Accepted (integrateTask tasks products task) ↔
      task.expectedWorkProductTypes ≠ [] ∧
      (∀ gap ∈ taskGaps tasks products task, Accepted (SecretaryIntegrationGap.validated gap)) ∧
      (Integrated products task → (taskIds tasks).idxOf task.taskId ≤ 49) := fun task => by
    rw [← sections, ← accepted_collectEach_iff, ← accepted_collectEach_iff]
    simp only [integrateTask, Accepted, bind_eq_ok_iff, exists_unit_iff, rejectIf_eq_ok_iff,
      pure_eq_ok_iff]
    constructor
    · rintro ⟨_, expects, gaps, builtGaps, sections, builtSections, rfl⟩
      exact ⟨expects, ⟨gaps, builtGaps⟩, ⟨sections, builtSections⟩⟩
    · rintro ⟨expects, ⟨gaps, builtGaps⟩, ⟨sections, builtSections⟩⟩
      exact ⟨_, expects, gaps, builtGaps, sections, builtSections, rfl⟩
  rw [accepted_collectEach_iff, ← accepted_gaps_iff]
  simp only [each]
  constructor
  · intro all
    exact ⟨fun task isTask => (all task isTask).1, fun task isTask => (all task isTask).2.2,
      fun task isTask => (all task isTask).2.1⟩
  · rintro ⟨expects, placed, gaps⟩ task isTask
    exact ⟨expects task isTask, gaps task isTask, placed task isTask⟩

/-- The gaps of an integration have the identifiers of the gaps of its tasks. -/
theorem gapIds_integrated
    (collected : collectEach (integrateTask tasks products) tasks = .ok integrated) :
    (integrated.flatMap (·.1)).map (·.toSecretaryIntegrationGapFields) =
        tasks.flatMap (taskGaps tasks products) ∧
      (integrated.flatMap (·.2)).map (·.toSecretaryIntegrationSectionFields) =
        tasks.flatMap (taskSections tasks products) := by
  have each : ∀ {task : CoordinationTask} {result},
      integrateTask tasks products task = .ok result →
      result.1.map (·.toSecretaryIntegrationGapFields) = taskGaps tasks products task ∧
      result.2.map (·.toSecretaryIntegrationSectionFields) = taskSections tasks products task := by
    intro task result integrates
    simp only [integrateTask, bind_eq_ok_iff, exists_unit_iff, rejectIf_eq_ok_iff,
      pure_eq_ok_iff] at integrates
    obtain ⟨-, gaps, builtGaps, sections, builtSections, rfl⟩ := integrates
    refine ⟨?_, ?_⟩
    · have same := @map_of_collectEach _ _ _ _ _ id _ SecretaryIntegrationGap.validated_eq_ok
      exact (same builtGaps).trans (List.map_id _)
    · have same := @map_of_collectEach _ _ _ _ _ id _ SecretaryIntegrationSection.validated_eq_ok
      exact (same builtSections).trans (List.map_id _)
  have gaps := map_of_collectEach (fun integrates => (each integrates).1) collected
  have sections := map_of_collectEach (fun integrates => (each integrates).2) collected
  rw [List.map_flatMap, List.map_flatMap, List.flatMap_def, List.flatMap_def, List.flatMap_def,
    List.flatMap_def]
  exact ⟨congrArg _ gaps, congrArg _ sections⟩

/-! ## The result -/

/-- The result tells that the product of a task is missing. -/
def ReportsMissing (result : SecretaryIntegrationResult) (taskId : String) : Prop :=
  ∃ gap ∈ result.gaps,
    gap.gapType ∈ [.missingRequiredProduct, .missingOptionalProduct] ∧ gap.taskId = taskId

/-- A result is well formed: its gaps have identifiers of their own, its sections are in the
order of the graph with one for every product, and every task of a specialist has one section
or its product is reported missing. -/
structure WellFormedIntegration (plan : CoordinationPlan) (products : List AgentWorkProduct)
    (result : SecretaryIntegrationResult) : Prop where
  distinctGaps : (result.gaps.map (·.gapId)).Nodup
  inOrder : ∃ ordered, validateCoordinationDag plan.tasks = .ok ordered ∧
    (result.sections.map (·.taskId)).Sublist (taskIds ordered)
  onePerProduct : (result.sections.map fun item => (item.taskId, item.workProductId)).Perm
    (products.map fun product => (product.taskId, product.workProductId))
  covered : ∀ task ∈ plan.tasks, task.assignable →
    ((result.sections.map (·.taskId)).count task.taskId = 1 ∧
      ¬ ReportsMissing result task.taskId) ∨
    ((result.sections.map (·.taskId)).count task.taskId = 0 ∧ ReportsMissing result task.taskId)

/-- An integration returns a well-formed result. -/
def Integrates (request : SecretaryIntegrationRequest) (context : SecretaryIntegrationContext)
    (plan : CoordinationPlan) (assignments : List AssignmentExecutionRequest) : Prop :=
  ∃ result, integrateSecretaryWorkProducts request context plan assignments = .ok result ∧
    WellFormedIntegration plan request.products result

theorem sections_eq : (tasks.flatMap (taskSections tasks products)).map
      (fun item => (item.taskId, item.workProductId)) =
    tasks.filterMap fun task => (productOf products task.taskId).map fun product =>
      (task.taskId, product.workProductId) := by
  rw [List.map_flatMap, List.filterMap_eq_flatMap_toList]
  refine List.flatMap_congr fun task _ => ?_
  unfold taskSections
  cases productOf products task.taskId <;> rfl

theorem sectionTasks_eq (listed : List CoordinationTask) :
    (listed.flatMap (taskSections tasks products)).map (·.taskId) =
      taskIds (listed.filter fun task => (productOf products task.taskId).isSome) := by
  induction listed with
  | nil => rfl
  | cons task rest ih =>
      rw [List.flatMap_cons, List.map_append, ih, List.filter_cons]
      unfold taskSections
      cases productOf products task.taskId <;> rfl

/-- A gap of a task is about that task, and is of a missing product only without one. -/
theorem of_mem_taskGaps {gap : SecretaryIntegrationGapFields}
    (listed : gap ∈ taskGaps tasks products task) :
    gap.taskId = task.taskId ∧ (gap.gapType ∈
      [IntegrationGapType.missingRequiredProduct, .missingOptionalProduct] →
        ¬ Integrated products task) := by
  unfold taskGaps at listed
  unfold Integrated
  cases has : productOf products task.taskId with
  | none =>
      rw [has] at listed
      rw [List.mem_singleton.mp listed]
      exact ⟨rfl, by simp⟩
  | some product =>
      rw [has] at listed
      rcases List.mem_append.mp listed with isDependency | isReview
      · obtain ⟨dependency, -, rfl⟩ := List.mem_map.mp isDependency
        exact ⟨rfl, by simp [dependencyGap]⟩
      · split at isReview
        · rw [List.mem_singleton.mp isReview]
          exact ⟨rfl, by simp [reviewGap]⟩
        · cases isReview

theorem missingGap_mem (absent : ¬ Integrated products task) :
    missingGap task ∈ taskGaps tasks products task := by
  rw [taskGaps, not_integrated_iff.mp absent]
  exact List.mem_singleton.mpr rfl

theorem missingGap_gapType : (missingGap task).gapType ∈
    [IntegrationGapType.missingRequiredProduct, .missingOptionalProduct] := by
  unfold missingGap
  cases task.required <;> simp

/-- What a returned result is made of. -/
structure ResultOf (request : SecretaryIntegrationRequest) (tasks : List CoordinationTask)
    (result : SecretaryIntegrationResult) : Prop where
  gaps : (result.gaps.map (·.toSecretaryIntegrationGapFields)).Perm
    (tasks.flatMap (taskGaps tasks request.products))
  sections : result.sections.map (·.toSecretaryIntegrationSectionFields) =
    tasks.flatMap (taskSections tasks request.products)
  conflicts : collectEach (integrateConflict request.products) request.explicitConflicts =
    .ok result.conflicts
  status : result.status = integrationStatus (missingTaskIds tasks request.products true)
    (reviewTaskIds tasks request.products) result.gaps result.conflicts
  built : Accepted (collectEach (integrateTask tasks request.products) tasks)

namespace ResultOf

variable {result : SecretaryIntegrationResult} (made : ResultOf request tasks result)

include made

theorem sectionTasks : result.sections.map (·.taskId) =
    taskIds (tasks.filter fun task => (productOf request.products task.taskId).isSome) := by
  rw [← @sectionTasks_eq tasks, ← made.sections, List.map_map]
  rfl

variable (sources : CheckedSources request context plan assignments tasks)

include sources

theorem distinctSections : (result.sections.map (·.taskId)).Nodup := by
  rw [made.sectionTasks]
  exact sources.distinctTasks.sublist (List.filter_sublist.map _)

omit sources in
theorem hasSection_iff (isTask : task ∈ tasks) :
    task.taskId ∈ result.sections.map (·.taskId) ↔ Integrated request.products task := by
  rw [made.sectionTasks, taskIds, List.mem_map]
  constructor
  · rintro ⟨other, isOther, same⟩
    have has := (List.mem_filter.mp isOther).2
    rwa [same] at has
  · exact fun has => ⟨task, List.mem_filter.mpr ⟨isTask, has⟩, rfl⟩

/-- A task is reported missing exactly if it has no product. -/
theorem reportsMissing_iff (isTask : task ∈ tasks) :
    ReportsMissing result task.taskId ↔ ¬ Integrated request.products task := by
  constructor
  · rintro ⟨gap, isGap, isMissing, same⟩
    obtain ⟨other, isOther, ofOther⟩ := List.mem_flatMap.mp
      (made.gaps.mem_iff.mp (List.mem_map_of_mem isGap))
    obtain ⟨about, absent⟩ := of_mem_taskGaps ofOther
    have one : other = task := List.inj_on_of_nodup_map sources.distinctTasks isOther isTask
      (about.symm.trans same)
    exact one ▸ absent isMissing
  · intro absent
    obtain ⟨gap, isGap, fields⟩ := List.mem_map.mp
      (made.gaps.mem_iff.mpr (List.mem_flatMap.mpr ⟨task, isTask, missingGap_mem absent⟩))
    exact ⟨gap, isGap, fields ▸ missingGap_gapType, congrArg (·.taskId) fields⟩

/-- The sections are those of the products. -/
theorem onePerProduct : (result.sections.map fun item => (item.taskId, item.workProductId)).Perm
    (request.products.map fun product => (product.taskId, product.workProductId)) := by
  have pairs : result.sections.map (fun item => (item.taskId, item.workProductId)) =
      tasks.filterMap fun task => (productOf request.products task.taskId).map fun product =>
        (task.taskId, product.workProductId) := by
    rw [← sections_eq, ← made.sections, List.map_map]
    rfl
  have distinctPairs : (result.sections.map fun item =>
      (item.taskId, item.workProductId)).Nodup := by
    refine List.Nodup.of_map Prod.fst ?_
    rw [List.map_map]
    exact made.distinctSections sources
  have distinctProducts : (request.products.map fun product =>
      (product.taskId, product.workProductId)).Nodup := by
    refine List.Nodup.of_map Prod.fst ?_
    rw [List.map_map]
    exact sources.distinctProducts
  refine (List.perm_ext_iff_of_nodup distinctPairs distinctProducts).mpr fun pair => ?_
  rw [pairs, List.mem_filterMap, List.mem_map]
  constructor
  · rintro ⟨task, isTask, has⟩
    obtain ⟨product, ofTask, rfl⟩ := Option.map_eq_some_iff.mp has
    obtain ⟨isProduct, named⟩ := sources.productOf_eq_some_iff.mp ofTask
    exact ⟨product, isProduct, by rw [named]⟩
  · rintro ⟨product, isProduct, rfl⟩
    obtain ⟨task, isTask, named, -⟩ := sources.exists_task isProduct
    refine ⟨task, isTask, Option.map_eq_some_iff.mpr ⟨product, ?_, by rw [named]⟩⟩
    exact sources.productOf_eq_some_iff.mpr ⟨isProduct, named.symm⟩

/-- A result is well formed but for the names of its gaps. -/
theorem wellFormed_iff : WellFormedIntegration plan request.products result ↔
    ((tasks.flatMap (taskGaps tasks request.products)).map (·.gapId)).Nodup := by
  have gapIds : (result.gaps.map (·.gapId)).Perm
      ((tasks.flatMap (taskGaps tasks request.products)).map (·.gapId)) := by
    have same := made.gaps.map fun gap => gap.gapId
    rwa [List.map_map] at same
  refine ⟨fun formed => gapIds.nodup_iff.mp formed.distinctGaps, fun distinct => ?_⟩
  refine ⟨gapIds.nodup_iff.mpr distinct, ?_, made.onePerProduct sources,
    fun task inPlan assignable => ?_⟩
  · have sectionTasks := made.sectionTasks
    obtain ⟨ordered, validated, rfl⟩ := sources.ordered
    rw [sectionTasks]
    exact ⟨ordered, validated, (List.filter_sublist.trans List.filter_sublist).map _⟩
  · have isTask := sources.mem_tasks_iff.mpr ⟨inPlan, assignable⟩
    have distinctSections := made.distinctSections sources
    have hasSection := made.hasSection_iff isTask
    have missing := made.reportsMissing_iff sources isTask
    by_cases has : Integrated request.products task
    · exact .inl ⟨List.count_eq_one_of_mem distinctSections (hasSection.mpr has),
        fun reports => missing.mp reports has⟩
    · exact .inr ⟨List.count_eq_zero.mpr fun listed => has (hasSection.mp listed),
        missing.mpr has⟩

end ResultOf

theorem integrate_eq_ok {result : SecretaryIntegrationResult}
    (integrates : integrateSecretaryWorkProducts request context plan assignments = .ok result) :
    ∃ tasks, checkedTasks request context plan assignments = .ok tasks ∧
      ResultOf request tasks result := by
  simp only [integrateSecretaryWorkProducts, bind_eq_ok_iff, pure_eq_ok_iff] at integrates
  obtain ⟨tasks, checked, integrated, collected, conflicts, declares, rfl⟩ := integrates
  obtain ⟨gaps, sections⟩ := gapIds_integrated collected
  exact ⟨tasks, checked, (perm_sortedBy.map _).trans (.of_eq gaps), sections, declares, rfl,
    ⟨_, collected⟩⟩

theorem integrate_accepted (checked : checkedTasks request context plan assignments = .ok tasks)
    (built : Accepted (collectEach (integrateTask tasks request.products) tasks))
    (declared : Accepted (collectEach (integrateConflict request.products)
      request.explicitConflicts)) :
    Accepted (integrateSecretaryWorkProducts request context plan assignments) := by
  obtain ⟨integrated, collected⟩ := built
  obtain ⟨conflicts, declares⟩ := declared
  simp only [integrateSecretaryWorkProducts, Accepted, bind_eq_ok_iff, pure_eq_ok_iff]
  exact ⟨_, tasks, checked, integrated, collected, conflicts, declares, rfl⟩

/-- Over sources that pass the checks, an integration returns a well-formed result exactly
where its sections and gaps can be built and no gap is named twice. -/
theorem integrates_iff (checked : checkedTasks request context plan assignments = .ok tasks)
    (declared : ∀ conflict ∈ request.explicitConflicts,
      Accepted (integrateConflict request.products conflict)) :
    Integrates request context plan assignments ↔ Nameable tasks request.products := by
  have sources := checkedTasks_eq_ok checked
  have distinctIds := @nodup_gapIds_iff _ request.products sources.distinctTasks
  constructor
  · rintro ⟨result, integrates, formed⟩
    obtain ⟨_, own, made⟩ := integrate_eq_ok integrates
    obtain rfl := Except.ok.inj (checked.symm.trans own)
    obtain ⟨once, apart⟩ := distinctIds.mp ((made.wellFormed_iff sources).mp formed)
    obtain ⟨expects, placed, fits⟩ := accepted_integrateTasks_iff.mp made.built
    exact ⟨expects, placed, fits, once, apart⟩
  · intro nameable
    have built := accepted_integrateTasks_iff.mpr
      ⟨nameable.expects, nameable.placed, nameable.fits⟩
    obtain ⟨result, integrates⟩ := integrate_accepted checked built
      (accepted_collectEach_iff.mpr declared)
    obtain ⟨_, own, made⟩ := integrate_eq_ok integrates
    obtain rfl := Except.ok.inj (checked.symm.trans own)
    exact ⟨result, integrates, (made.wellFormed_iff sources).mpr
      (distinctIds.mpr ⟨nameable.once, nameable.apart⟩)⟩

/-! ## A name that stands for two gaps -/

namespace IntegrationSample

/-- A task with a product, which depends on one without. -/
def firstTask : CoordinationTask :=
  givenValue (CoordinationTask.validated
    (taskFields "task.a" true false ["task.b.missing_product"])) (by decide +kernel)

/-- The task it depends on. -/
def dependencyTask : CoordinationTask :=
  givenValue (CoordinationTask.validated
    (taskFields "task.b.missing_product" true false [])) (by decide +kernel)

/-- A task without a product that is named after the dependency. -/
def namesakeTask : CoordinationTask :=
  givenValue (CoordinationTask.validated
    (taskFields "task.a.dependency.b" true false [])) (by decide +kernel)

/-- A task of its own, with a product. -/
def singleTask : CoordinationTask :=
  givenValue (CoordinationTask.validated (taskFields "task.a" true false [])) (by decide +kernel)

/-- The record of the assignment of the first task. -/
def record : AssignmentExecutionRecord where
  toAssignmentExecutionRecordFields := recordFields "task.a"

/-- The request to integrate its product. -/
def integrationRequest : SecretaryIntegrationRequest where
  integrationId := 9
  coordinationId := 1
  purpose := .executiveBriefing
  collectionResults :=
    [{ collectionId := 10
       workProduct := productFor "task.a"
       runtimeRecord := record
       sourceDispatchId := 11
       collectedAt := 15 }]

end IntegrationSample

open IntegrationSample in
/-- The product of a task of its own is integrated. -/
theorem integrates_single : Integrates integrationRequest integrationContext (planOf [singleTask])
    [assignmentOf "task.a"] := by
  have checked : checkedTasks integrationRequest integrationContext (planOf [singleTask])
      [assignmentOf "task.a"] = .ok [singleTask] := by decide +kernel
  refine (integrates_iff checked fun _ declared => absurd declared List.not_mem_nil).mpr ?_
  have none : ∀ task dependency,
      ¬ Unresolved [singleTask] integrationRequest.products task dependency := by
    rintro task dependency ⟨isTask, -, unresolved⟩
    rw [List.mem_singleton.mp isTask] at unresolved
    exact absurd unresolved (List.not_mem_nil)
  refine ⟨by decide +kernel, by decide +kernel, fun task dependency unresolved =>
    absurd unresolved (none task dependency), fun task isTask _ => ?_, ?_⟩
  · rw [List.mem_singleton.mp isTask]
    exact List.nodup_nil
  · exact
      { dependencies := fun unresolved => absurd unresolved (none _ _)
        missing := fun unresolved => absurd unresolved (none _ _)
        reviews := fun unresolved => absurd unresolved (none _ _) }

open IntegrationSample in
/-- The gap of a dependency and the gap of a missing product are one name. -/
theorem namesake_not_wellFormed :
    (checkedTasks integrationRequest integrationContext (planOf [firstTask, dependencyTask, namesakeTask])
        [assignmentOf "task.a"]).toOption.isSome = true ∧
      integrationRequest.explicitConflicts = [] ∧
      ¬ Integrates integrationRequest integrationContext (planOf [firstTask, dependencyTask, namesakeTask])
        [assignmentOf "task.a"] := by
  have repeated : (integrateSecretaryWorkProducts integrationRequest integrationContext
      (planOf [firstTask, dependencyTask, namesakeTask]) [assignmentOf "task.a"]).toOption.all
        fun result => ¬ (result.gaps.map (·.gapId)).Nodup := by decide +kernel
  refine ⟨by decide +kernel, rfl, ?_⟩
  rintro ⟨result, integrates, formed⟩
  rw [integrates] at repeated
  exact of_decide_eq_true repeated formed.distinctGaps

end PolicyOS.Orchestration
