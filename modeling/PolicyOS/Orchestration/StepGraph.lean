import PolicyOS.Orchestration.Translation

/-!
# Identifiers of steps

Every identifier that is made of that of a task keeps to the pattern its model asks for,
different tasks give different identifiers, and the input of a step is accepted unless
the identifier in it looks like a secret.
-/

namespace PolicyOS.Orchestration

open Foundation Execution Intelligence

variable {taskId other : String} {translationId : UUID}

theorem toList_taskName {rest : List Char} (split : taskId.toList = "task.".toList ++ rest) :
    (taskName taskId).toList = rest := by
  rw [taskName, String.toList_ofList, split]
  exact (List.drop_left : ("task.".toList ++ rest).drop "task.".toList.length = rest)

theorem toList_taskId (shaped : taskIdPattern taskId = true) :
    taskId.toList = "task.".toList ++ (taskName taskId).toList ∧
      1 ≤ (taskName taskId).toList.length ∧ (taskName taskId).toList.length ≤ 90 ∧
      (taskName taskId).toList.all isNameChar = true := by
  obtain ⟨rest, split, bounds⟩ := prefixedName_iff.mp shaped
  rw [toList_taskName split]
  exact ⟨split, bounds⟩

theorem taskName_injective (shaped : taskIdPattern taskId = true)
    (shapedOther : taskIdPattern other = true) (same : taskName taskId = taskName other) :
    taskId = other := by
  rw [← String.toList_inj, (toList_taskId shaped).1, (toList_taskId shapedOther).1, same]

theorem append_left_injective {start first second : String}
    (same : start ++ first = start ++ second) : first = second := by
  rw [← String.toList_inj, String.toList_append, String.toList_append] at same
  exact String.toList_inj.mp (List.append_cancel_left same)

theorem stepIdOf_injective (shaped : taskIdPattern taskId = true)
    (shapedOther : taskIdPattern other = true) (same : stepIdOf taskId = stepIdOf other) :
    taskId = other :=
  taskName_injective shaped shapedOther (append_left_injective same)

theorem gateIdOf_injective (shaped : taskIdPattern taskId = true)
    (shapedOther : taskIdPattern other = true) (same : gateIdOf taskId = gateIdOf other) :
    taskId = other :=
  taskName_injective shaped shapedOther (append_left_injective same)

theorem stepIdOf_ne_gateIdOf : stepIdOf taskId ≠ gateIdOf other := by
  intro same
  have starts := congrArg (fun text : String => text.toList.head?) same
  simp only [stepIdOf, gateIdOf, String.toList_append] at starts
  exact absurd starts (by simp)

theorem prefixedName_taskName {start : String} {maximum : Nat} (enough : 90 ≤ maximum)
    (shaped : taskIdPattern taskId = true) :
    prefixedName start maximum (start ++ taskName taskId) = true := by
  obtain ⟨-, least, most, named⟩ := toList_taskId shaped
  exact prefixedName_iff.mpr ⟨_, String.toList_append, least, most.trans enough, named⟩

theorem toList_translated {start : String} :
    (start ++ uuidText translationId ++ "." ++ taskName taskId).toList =
      start.toList ++ (uuidChars translationId ++ '.' :: (taskName taskId).toList) := by
  simp only [String.toList_append, toList_uuidText, List.append_assoc]
  rfl

theorem prefixedName_translated {start : String} (shaped : taskIdPattern taskId = true) :
    prefixedName start 180 (start ++ uuidText translationId ++ "." ++ taskName taskId) = true := by
  obtain ⟨-, least, most, named⟩ := toList_taskId shaped
  refine prefixedName_iff.mpr ⟨_, toList_translated, ?_, ?_, ?_⟩
  · simp
    omega
  · simp
    omega
  · rw [List.all_append, uuidChars_isNameChar, List.all_cons, named]
    decide

/-- The identifier of a step keeps to its pattern. -/
theorem stepIdPattern_stepIdOf (shaped : taskIdPattern taskId = true) :
    stepIdPattern (stepIdOf taskId) = true := by
  obtain ⟨-, -, most, named⟩ := toList_taskId shaped
  have chars : (stepIdOf taskId).toList = 's' :: (['t', 'e', 'p', '.'] ++ (taskName taskId).toList) :=
    String.toList_append
  have alphabet : ∀ {char : Char}, isNameChar char = true →
      (char.isAlphanum || char = '_' || char = '.' || char = '-' || false) = true :=
    fun named => forall_isNameChar (fun char =>
      (char.isAlphanum || char = '_' || char = '.' || char = '-' || false) = true)
      (by decide +kernel) named
  rw [stepIdPattern, leadingName, chars]
  simp only [Bool.and_eq_true, decide_eq_true_eq, List.length_append, List.all_eq_true]
  refine ⟨⟨by decide, by simp; omega⟩, fun char isChar => alphabet ?_⟩
  rcases List.mem_append.mp isChar with fixed | ofName
  · have spelled : ['t', 'e', 'p', '.'].all isNameChar = true := by decide
    exact List.all_eq_true.mp spelled char fixed
  · exact List.all_eq_true.mp named char ofName

theorem requestIdOf_all (translationId : UUID) (shaped : taskIdPattern taskId = true) :
    (requestIdOf translationId taskId).toList.all isNameChar = true ∧
      (requestIdOf translationId taskId).toList.length ≤ 135 := by
  obtain ⟨-, -, most, named⟩ := toList_taskId shaped
  rw [requestIdOf, toList_translated, List.all_append, List.all_append, uuidChars_isNameChar,
    List.all_cons, named]
  refine ⟨by decide, ?_⟩
  simp
  omega

/-- The input of a step is accepted unless its identifier looks like a secret. -/
theorem validateJson_stepInput_iff (translationId : UUID)
    (shaped : taskIdPattern taskId = true) :
    validateJson maxMetadataBytes "step input" 0 (.object [("assignment_request_id",
        .text (requestIdOf translationId taskId))]) = .ok () ↔
      secretValue (requestIdOf translationId taskId) = false := by
  obtain ⟨named, short⟩ := requestIdOf_all translationId shaped
  rw [List.all_eq_true] at named
  have oneByte : ∀ char ∈ (requestIdOf translationId taskId).toList,
      char.utf8Size = 1 ∧ charSize char = 1 := fun char isChar =>
    forall_isNameChar (fun char => char.utf8Size = 1 ∧ charSize char = 1)
      (by decide +kernel) (named char isChar)
  have bytes : (requestIdOf translationId taskId).utf8ByteSize =
      (requestIdOf translationId taskId).toList.length := by
    rw [utf8ByteSize_eq_sum, List.map_congr_left fun char isChar => (oneByte char isChar).1]
    simp
  have size : textSize (requestIdOf translationId taskId) =
      2 + (requestIdOf translationId taskId).toList.length := by
    rw [textSize, List.map_congr_left fun char isChar => (oneByte char isChar).2]
    simp
  have keySize : textSize "assignment_request_id" = 23 := by decide
  have isSafe : safeKey "assignment_request_id" = true := by decide
  have noSecret : secretKey "assignment_request_id" = false := by decide +kernel
  simp only [validateJson, validateMembers, bind_eq_ok_iff, exists_unit_iff, rejectIf_eq_ok_iff,
    JsonValue.size, JsonValue.membersSize, keySize, isSafe, noSecret, bytes, size,
    maxMetadataBytes, maxNesting, maxCollectionItems]
  constructor
  · rintro ⟨-, -, ⟨-, -, ⟨-, -, unlike⟩, -⟩, -⟩
    exact Bool.eq_false_of_not_eq_true unlike
  · intro unlike
    simp [unlike]
    omega

end PolicyOS.Orchestration

/-!
# The graph of the translated steps

A step depends on the executed tasks its task depends on through tasks that are not
executed. Leaving those out keeps the order of the tasks, so the steps of a plan whose
task graph is accepted are a graph the execution accepts.
-/

namespace PolicyOS.Orchestration

open Foundation Execution Intelligence

variable {plan : CoordinationPlan} {executable : List CoordinationTask} {task : CoordinationTask}

/-- One task depends on another, itself or through others. -/
def Follows (plan : CoordinationPlan) : String → String → Prop :=
  Relation.TransGen fun taskId dependency => dependency ∈ taskDependencies plan.tasks taskId

theorem taskById_eq_some_iff (distinct : (taskIds plan.tasks).Nodup) {taskId : String} :
    taskById plan taskId = some task ↔ task ∈ plan.tasks ∧ task.taskId = taskId :=
  find?_reverse_key_eq_some_iff distinct

theorem follows_dependency (distinct : (taskIds plan.tasks).Nodup) (present : task ∈ plan.tasks)
    {dependency : String} (depends : dependency ∈ task.dependencyTaskIds) :
    Follows plan task.taskId dependency :=
  .single (by rwa [taskDependencies_taskId distinct present])

/-- Every step that is found is of an executed task that was followed to. -/
theorem resolved_follows (distinct : (taskIds plan.tasks).Nodup) {start : String}
    {executableIds : List String} (rounds : Nat) {pending seen found : List String}
    (followed : ∀ dependency ∈ pending, Follows plan start dependency)
    (foundBefore : ∀ stepId ∈ found,
      ∃ taskId ∈ executableIds, Follows plan start taskId ∧ stepIdOf taskId = stepId) :
    ∀ stepId ∈ resolveDependencies plan executableIds rounds pending seen found,
      ∃ taskId ∈ executableIds, Follows plan start taskId ∧ stepIdOf taskId = stepId := by
  induction rounds generalizing pending seen found with
  | zero => exact foundBefore
  | succ rounds ih =>
      cases pending with
      | nil => exact foundBefore
      | cons dependency pending =>
          have later : ∀ other ∈ pending, Follows plan start other :=
            fun other isOther => followed other (List.mem_cons_of_mem _ isOther)
          have reached := followed dependency List.mem_cons_self
          rw [resolveDependencies]
          split_ifs with isSeen isExecuted
          · exact ih later foundBefore
          · refine ih later fun stepId isFound => ?_
            rcases List.mem_append.mp isFound with before | own
            · exact foundBefore stepId before
            · exact ⟨dependency, isExecuted, reached, (List.mem_singleton.mp own).symm⟩
          · split
            · exact ih later foundBefore
            next passed isTask =>
              obtain ⟨present, rfl⟩ := (taskById_eq_some_iff distinct).mp isTask
              refine ih (fun other isOther => ?_) foundBefore
              rcases List.mem_append.mp isOther with before | further
              · exact later other before
              · exact Relation.TransGen.trans reached (follows_dependency distinct present further)

theorem mem_stepDependencies (graph : TaskGraph plan.tasks) (present : task ∈ plan.tasks)
    {executableIds : List String} {stepId : String}
    (depends : stepId ∈ stepDependencies plan executableIds task) :
    ∃ taskId ∈ executableIds, Follows plan task.taskId taskId ∧ stepIdOf taskId = stepId := by
  refine resolved_follows graph.distinct _ (fun dependency isDirect => ?_) ?_ stepId
    (mem_sortedSet.mp depends)
  · exact follows_dependency graph.distinct present isDirect
  · exact fun stepId absent => absurd absent List.not_mem_nil

/-- What a task follows is a task, and not itself. -/
theorem follows_other (graph : TaskGraph plan.tasks) (present : task ∈ plan.tasks)
    {taskId : String} (follows : Follows plan task.taskId taskId) :
    taskId ∈ taskIds plan.tasks ∧ taskId ≠ task.taskId := by
  obtain ⟨order, ordered, all⟩ := graph.ordered
  have listed : task.taskId ∈ order := all.mem_iff.mpr (List.mem_map_of_mem present)
  refine ⟨all.mem_iff.mp (ordered.mem_of_transGen listed follows), ?_⟩
  rintro rfl
  have closure : DependencyOrder (fun key => if key = task.taskId then [task.taskId] else [])
      (order.filter fun _ => true) := ordered.contract fun key isKey dependency depends => by
    by_cases own : key = task.taskId
    · rw [if_pos own, List.mem_singleton] at depends
      exact ⟨rfl, depends ▸ own ▸ follows⟩
    · rw [if_neg own] at depends
      cases depends
  exact closure.not_self_dependency (by simpa using listed) (by simp)

/-- The node of the step of a task. -/
def stepNode (plan : CoordinationPlan) (executable : List CoordinationTask)
    (task : CoordinationTask) : StepLike where
  stepId := stepIdOf task.taskId
  sequence := task.orderHint
  dependencies := stepDependencies plan (taskIds executable) task

/-- The executed tasks are tasks of the plan, in its order. -/
structure Executes (plan : CoordinationPlan) (executable : List CoordinationTask) : Prop where
  graph : TaskGraph plan.tasks
  listed : executable.Sublist plan.tasks

theorem Executes.distinct (executes : Executes plan executable) : (taskIds executable).Nodup :=
  executes.graph.distinct.sublist (executes.listed.map _)

theorem Executes.distinctSteps (executes : Executes plan executable) :
    ((executable.map (stepNode plan executable)).map (·.stepId)).Nodup := by
  rw [List.map_map]
  refine List.Nodup.map_on ?_ (List.Nodup.of_map _ executes.distinct)
  intro first isFirst second isSecond same
  exact List.inj_on_of_nodup_map executes.distinct isFirst isSecond
    (stepIdOf_injective first.taskIdPattern second.taskIdPattern same)

/-- The steps have a dependency order. -/
theorem Executes.ordered (executes : Executes plan executable) :
    ∃ order, DependencyOrder (dependenciesOf (executable.map (stepNode plan executable))) order ∧
      order.Perm ((executable.map (stepNode plan executable)).map (·.stepId)) := by
  classical
  obtain ⟨order, ordered, all⟩ := executes.graph.ordered
  have isTask : ∀ taskId ∈ order, ∃ task ∈ plan.tasks, task.taskId = taskId := fun taskId listed =>
    List.mem_map.mp (all.mem_iff.mp listed)
  -- The order of the executed tasks alone.
  let contracted : String → List String := fun taskId =>
    (taskIds executable).filter (Follows plan taskId ·)
  have kept : DependencyOrder contracted (order.filter (· ∈ taskIds executable)) := by
    refine ordered.contract fun taskId listed dependency depends => ?_
    obtain ⟨isExecuted, follows⟩ := List.mem_filter.mp depends
    exact ⟨decide_eq_true isExecuted, (of_decide_eq_true follows :)⟩
  have same : (order.filter (· ∈ taskIds executable)).Perm (taskIds executable) := by
    rw [List.perm_ext_iff_of_nodup (kept.nodup) executes.distinct]
    intro taskId
    rw [List.mem_filter, decide_eq_true_iff, and_iff_right_iff_imp]
    intro isExecuted
    exact all.mem_iff.mpr ((executes.listed.map _).subset isExecuted)
  have shaped : ∀ taskId ∈ order.filter (· ∈ taskIds executable),
      ∃ task ∈ executable, task.taskId = taskId := fun taskId listed =>
    List.mem_map.mp (same.mem_iff.mp listed)
  refine ⟨(order.filter (· ∈ taskIds executable)).map stepIdOf, kept.map ?_ ?_, ?_⟩
  · intro first isFirst second isSecond alike
    obtain ⟨one, -, rfl⟩ := shaped first isFirst
    obtain ⟨two, -, rfl⟩ := shaped second isSecond
    exact stepIdOf_injective one.taskIdPattern two.taskIdPattern alike
  · intro taskId listed stepId depends
    obtain ⟨task, isExecuted, rfl⟩ := shaped taskId listed
    have own : dependenciesOf (executable.map (stepNode plan executable)) (stepIdOf task.taskId) =
        stepDependencies plan (taskIds executable) task :=
      dependenciesOf_stepId executes.distinctSteps (List.mem_map_of_mem isExecuted :
        stepNode plan executable task ∈ executable.map (stepNode plan executable))
    rw [own] at depends
    obtain ⟨dependency, isDependency, follows, rfl⟩ :=
      mem_stepDependencies executes.graph (executes.listed.subset isExecuted) depends
    exact ⟨dependency, List.mem_filter.mpr ⟨isDependency, decide_eq_true follows⟩, rfl⟩
  · rw [List.map_map]
    have mapped := same.map stepIdOf
    rwa [taskIds, List.map_map] at mapped

end PolicyOS.Orchestration
