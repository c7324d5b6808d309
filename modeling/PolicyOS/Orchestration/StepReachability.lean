import PolicyOS.Execution.StableOrder
import PolicyOS.Orchestration.GateDependencies

/-!
# Dependencies between steps

The dependencies of a task are followed through the tasks that are not executed, and stop at
those that are. So one step reaches another exactly if its task follows the other's, whatever
lies between them.
-/

namespace PolicyOS.Orchestration

open Foundation Execution Intelligence

variable {request : CoordinationExecutionTranslationRequest}
  {context : CoordinationExecutionTranslationContext}
  {policy : CoordinationExecutionTranslationPolicy}
  {result : CoordinationExecutionTranslationResult} {plan : CoordinationPlan}

/-! ## The search through tasks that are not executed -/

/-- How many dependencies may still be appended: those of the tasks that were not seen. -/
def unseenDependencies (tasks : List CoordinationTask) (seen : List String) : Nat :=
  ((tasks.filter (·.taskId ∉ seen)).map (·.dependencyTaskIds.length)).sum

theorem unseenDependencies_task (first : CoordinationTask) (rest : List CoordinationTask)
    (seen : List String) :
    unseenDependencies (first :: rest) seen =
      (if first.taskId ∈ seen then 0 else first.dependencyTaskIds.length) +
        unseenDependencies rest seen := by
  by_cases isSeen : first.taskId ∈ seen <;> simp [unseenDependencies, isSeen]

/-- Seeing one more task leaves at most the dependencies there were. -/
theorem unseenDependencies_cons_le (tasks : List CoordinationTask) (seen : List String)
    (taskId : String) : unseenDependencies tasks (taskId :: seen) ≤ unseenDependencies tasks seen := by
  induction tasks with
  | nil => rfl
  | cons first rest ih =>
      rw [unseenDependencies_task, unseenDependencies_task]
      by_cases isSeen : first.taskId ∈ seen
      · rw [if_pos isSeen, if_pos (List.mem_cons_of_mem _ isSeen)]
        omega
      · rw [if_neg isSeen]
        split <;> omega

/-- Seeing a task takes its dependencies from those that are left. -/
theorem unseenDependencies_cons {tasks : List CoordinationTask} {seen : List String}
    {task : CoordinationTask} (present : task ∈ tasks) (fresh : task.taskId ∉ seen) :
    task.dependencyTaskIds.length + unseenDependencies tasks (task.taskId :: seen) ≤
      unseenDependencies tasks seen := by
  induction tasks with
  | nil => cases present
  | cons first rest ih =>
      rw [unseenDependencies_task, unseenDependencies_task]
      rcases List.mem_cons.mp present with rfl | later
      · have others := unseenDependencies_cons_le rest seen task.taskId
        rw [if_pos List.mem_cons_self, if_neg fresh]
        omega
      · have others := ih later
        by_cases isSeen : first.taskId ∈ seen
        · rw [if_pos isSeen, if_pos (List.mem_cons_of_mem _ isSeen)]
          omega
        · rw [if_neg isSeen]
          split <;> omega

/-- What was seen is resolved: an executed task is found, and the dependencies of any other are
seen or pending. -/
def Resolved (plan : CoordinationPlan) (executable seen pending found : List String) : Prop :=
  ∀ taskId ∈ seen, (taskId ∈ executable → stepIdOf taskId ∈ found) ∧
    (taskId ∉ executable → ∀ task, taskById plan taskId = some task →
      ∀ dependency ∈ task.dependencyTaskIds, dependency ∈ seen ∨ dependency ∈ pending)

/-- What is pending may become seen. -/
theorem Resolved.cons {executable seen pending found more : List String} {taskId : String}
    (resolved : Resolved plan executable seen (taskId :: pending) found)
    (executed : taskId ∈ executable → stepIdOf taskId ∈ found ++ more)
    (passed : taskId ∉ executable → ∀ task, taskById plan taskId = some task →
      ∀ dependency ∈ task.dependencyTaskIds, dependency ∈ pending) :
    Resolved plan executable (taskId :: seen) pending (found ++ more) := by
  intro other isSeen
  rcases List.mem_cons.mp isSeen with rfl | earlier
  · exact ⟨executed, fun isOther task isTask dependency depends =>
      .inr (passed isOther task isTask dependency depends)⟩
  · refine ⟨fun isExecuted => List.mem_append_left _ ((resolved other earlier).1 isExecuted), ?_⟩
    intro isOther task isTask dependency depends
    rcases (resolved other earlier).2 isOther task isTask dependency depends with seen | waits
    · exact .inl (List.mem_cons_of_mem _ seen)
    · rcases List.mem_cons.mp waits with rfl | later
      · exact .inl List.mem_cons_self
      · exact .inr later

theorem Resolved.mono {executable seen pending others found : List String}
    (resolved : Resolved plan executable seen pending found) (more : pending ⊆ others) :
    Resolved plan executable seen others found := by
  intro taskId isSeen
  refine ⟨(resolved taskId isSeen).1, fun isOther task isTask dependency depends => ?_⟩
  exact ((resolved taskId isSeen).2 isOther task isTask dependency depends).imp_right (more ·)

/-- With a round for each pending dependency and each that may be appended, the search ends with
everything pending seen, and resolved by what it found. -/
theorem exists_resolved (distinct : (taskIds plan.tasks).Nodup) {executable : List String}
    (rounds : Nat) {pending seen found : List String}
    (resolved : Resolved plan executable seen pending found)
    (enough : pending.length + unseenDependencies plan.tasks seen ≤ rounds) :
    ∃ all, seen ⊆ all ∧ pending ⊆ all ∧
      Resolved plan executable all [] (resolveDependencies plan executable rounds pending seen
        found) := by
  induction rounds generalizing pending seen found with
  | zero =>
      obtain rfl : pending = [] := List.eq_nil_of_length_eq_zero (by omega)
      exact ⟨seen, fun _ => id, List.nil_subset _, resolved⟩
  | succ rounds ih =>
      cases pending with
      | nil => exact ⟨seen, fun _ => id, List.nil_subset _, resolved⟩
      | cons dependency pending =>
          rw [List.length_cons] at enough
          have fewer := unseenDependencies_cons_le plan.tasks seen dependency
          -- Whatever happens to the first of the pending, it ends among those seen.
          have finish : ∀ {later found},
              (∃ all, dependency :: seen ⊆ all ∧ pending ++ later ⊆ all ∧
                Resolved plan executable all [] found) →
              ∃ all, seen ⊆ all ∧ dependency :: pending ⊆ all ∧
                Resolved plan executable all [] found := by
            rintro later found ⟨all, isSeen, isPending, closed⟩
            obtain ⟨isFirst, earlier⟩ := List.cons_subset.mp isSeen
            exact ⟨all, earlier, List.cons_subset.mpr
              ⟨isFirst, (List.append_subset.mp isPending).1⟩, closed⟩
          rw [resolveDependencies]
          split_ifs with isSeen isExecuted
          · obtain ⟨all, seenAll, pendingAll, closed⟩ :=
              @ih pending seen found (fun taskId earlier => by
                refine ⟨(resolved taskId earlier).1, fun isOther task isTask other depends => ?_⟩
                rcases (resolved taskId earlier).2 isOther task isTask other depends with
                  before | waits
                · exact .inl before
                · rcases List.mem_cons.mp waits with rfl | later
                  · exact .inl isSeen
                  · exact .inr later) (by omega)
            exact ⟨all, seenAll, List.cons_subset.mpr ⟨seenAll isSeen, pendingAll⟩, closed⟩
          · refine @finish [] _ ?_
            rw [List.append_nil]
            refine ih (resolved.cons (fun _ => by simp) fun isOther => ?_) (by omega)
            exact absurd isExecuted isOther
          · split
            next absent =>
              refine @finish [] _ ?_
              rw [List.append_nil]
              have kept := @Resolved.cons plan executable seen pending found [] dependency resolved
                (fun executed => absurd executed isExecuted) fun _ task isTask => by
                  rw [absent] at isTask
                  cases isTask
              rw [List.append_nil] at kept
              exact ih kept (by omega)
            next task isTask =>
              obtain ⟨present, rfl⟩ := (taskById_eq_some_iff distinct).mp isTask
              refine @finish task.dependencyTaskIds _ ?_
              have wider : Resolved plan executable seen
                  (task.taskId :: (pending ++ task.dependencyTaskIds)) found :=
                resolved.mono (List.cons_subset_cons _ (List.subset_append_left ..))
              have kept := @Resolved.cons plan executable seen (pending ++ task.dependencyTaskIds)
                found [] task.taskId wider (fun executed => absurd executed isExecuted)
                fun _ other isOther further depends => by
                  rw [isTask] at isOther
                  cases isOther
                  exact List.mem_append_right _ depends
              rw [List.append_nil] at kept
              have spent := unseenDependencies_cons present isSeen
              refine ih kept ?_
              rw [List.length_append]
              omega

/-- One task that is not executed depends on another. -/
def Passes (plan : CoordinationPlan) (executable : List String) (taskId dependency : String) :
    Prop :=
  taskId ∉ executable ∧ dependency ∈ taskDependencies plan.tasks taskId

/-- What an executed task is reached through others that are not executed is found. -/
theorem mem_stepDependencies_of_passes (graph : TaskGraph plan.tasks)
    {task : CoordinationTask} {executable : List String} {first last : String}
    (direct : first ∈ task.dependencyTaskIds)
    (passes : Relation.ReflTransGen (Passes plan executable) first last)
    (executed : last ∈ executable) :
    stepIdOf last ∈ stepDependencies plan executable task := by
  rw [stepDependencies, mem_sortedSet]
  have budget : unseenDependencies plan.tasks [] =
      (plan.tasks.map (·.dependencyTaskIds.length)).sum := by
    simp [unseenDependencies]
  obtain ⟨all, -, startsAll, closed⟩ := exists_resolved graph.distinct
    (task.dependencyTaskIds.length + (plan.tasks.map (·.dependencyTaskIds.length)).sum)
    (fun _ absent => absurd absent List.not_mem_nil : Resolved plan executable []
      task.dependencyTaskIds []) (by rw [budget])
  have reached : last ∈ all := by
    clear executed
    induction passes with
    | refl => exact startsAll direct
    | @tail middle next _ step isSeen =>
        obtain ⟨isOther, depends⟩ := step
        obtain ⟨node, isNode, named, depends⟩ := (mem_dependenciesOf_iff
          (stepIds_nodes ▸ graph.distinct)).mp depends
        obtain ⟨passed, present, rfl⟩ := List.mem_map.mp isNode
        have later := (closed middle isSeen).2 isOther passed
          ((taskById_eq_some_iff graph.distinct).mpr ⟨present, named⟩) next depends
        exact later.resolve_right List.not_mem_nil
  exact (closed last reached).1 executed

/-! ## Steps that depend on each other -/

variable {executable : List CoordinationTask}

/-- The step of an executed task depends on another step. -/
def StepDependsOn (plan : CoordinationPlan) (executable : List CoordinationTask)
    (stepId dependency : String) : Prop :=
  ∃ task ∈ executable, stepIdOf task.taskId = stepId ∧
    dependency ∈ stepDependencies plan (taskIds executable) task

/-- An executed task that follows from a task is reached through an executed one that the task
depends on, if not at once. -/
theorem exists_executed_between (executes : Executes plan executable) {start target : String}
    (follows : Follows plan start target) (executed : target ∈ taskIds executable) :
    ∃ first next, first ∈ taskDependencies plan.tasks start ∧
      Relation.ReflTransGen (Passes plan (taskIds executable)) first next ∧
      next ∈ taskIds executable ∧
      Relation.ReflTransGen (StepDependsOn plan executable) (stepIdOf next) (stepIdOf target) := by
  induction follows using Relation.TransGen.head_induction_on with
  | single depends => exact ⟨target, target, depends, .refl, executed, .refl⟩
  | @head start middle depends _ ih =>
      obtain ⟨first, next, direct, passes, isNext, reaches⟩ := ih
      by_cases isExecuted : middle ∈ taskIds executable
      · obtain ⟨task, isTask, rfl⟩ := List.mem_map.mp isExecuted
        rw [taskDependencies_taskId executes.graph.distinct (executes.listed.subset isTask)]
          at direct
        have depended : StepDependsOn plan executable (stepIdOf task.taskId) (stepIdOf next) :=
          ⟨task, isTask, rfl, mem_stepDependencies_of_passes executes.graph direct passes isNext⟩
        exact ⟨task.taskId, task.taskId, depends, .refl, isExecuted, .head depended reaches⟩
      · exact ⟨middle, next, depends, .head ⟨isExecuted, direct⟩ passes, isNext, reaches⟩

/-- The steps of executed tasks reach each other exactly as their tasks follow. -/
theorem stepDependsOn_iff_follows (executes : Executes plan executable)
    {first second : CoordinationTask} (isFirst : first ∈ executable)
    (isSecond : second ∈ executable) :
    Relation.TransGen (StepDependsOn plan executable) (stepIdOf first.taskId)
        (stepIdOf second.taskId) ↔ Follows plan first.taskId second.taskId := by
  constructor
  · intro reaches
    have followed : ∀ {stepId}, Relation.TransGen (StepDependsOn plan executable)
        (stepIdOf first.taskId) stepId → ∃ other ∈ executable, stepIdOf other.taskId = stepId ∧
          Follows plan first.taskId other.taskId := by
      have single : ∀ {task : CoordinationTask} {stepId}, task ∈ executable →
          StepDependsOn plan executable (stepIdOf task.taskId) stepId →
          ∃ other ∈ executable, stepIdOf other.taskId = stepId ∧
            Follows plan task.taskId other.taskId := by
        rintro task stepId isTask ⟨own, isOwn, same, depends⟩
        obtain rfl : own = task := List.inj_on_of_nodup_map executes.distinct isOwn isTask
          (stepIdOf_injective own.taskIdPattern task.taskIdPattern same)
        obtain ⟨_, isExecuted, follows, rfl⟩ :=
          mem_stepDependencies executes.graph (executes.listed.subset isTask) depends
        obtain ⟨other, isOther, rfl⟩ := List.mem_map.mp isExecuted
        exact ⟨other, isOther, rfl, follows⟩
      intro stepId reached
      induction reached with
      | single depends => exact single isFirst depends
      | tail _ depends ih =>
          obtain ⟨middle, isMiddle, rfl, follows⟩ := ih
          obtain ⟨other, isOther, named, further⟩ := single isMiddle depends
          exact ⟨other, isOther, named, Relation.TransGen.trans follows further⟩
    obtain ⟨other, isOther, same, follows⟩ := followed reaches
    rwa [← stepIdOf_injective other.taskIdPattern second.taskIdPattern same]
  · intro follows
    obtain ⟨direct, next, isDirect, passes, isNext, reaches⟩ :=
      exists_executed_between executes follows (List.mem_map_of_mem isSecond)
    rw [taskDependencies_taskId executes.graph.distinct (executes.listed.subset isFirst)]
      at isDirect
    exact .head' ⟨first, isFirst, rfl,
      mem_stepDependencies_of_passes executes.graph isDirect passes isNext⟩ reaches

/-! ## The plan of a translation -/

/-- One step of a plan reaches another through dependencies. -/
def StepReaches (made : ExecutionPlan) : String → String → Prop :=
  Relation.TransGen (NamesDependency (made.steps.map (·.toStepLike)))

/-- The steps of a plan reach each other as the translated tasks follow, none reaches itself, and
each is listed after those it depends on. -/
structure KeepsDependencies (plan : CoordinationPlan)
    (result : CoordinationExecutionTranslationResult) (made : ExecutionPlan) : Prop where
  reaches : ∀ first ∈ result.translatedTaskIds, ∀ second ∈ result.translatedTaskIds,
    (StepReaches made (stepIdOf first) (stepIdOf second) ↔ Follows plan first second)
  acyclic : ∀ stepId, ¬ StepReaches made stepId stepId
  ordered : ∀ before step after, made.steps = before ++ step :: after →
    step.dependencies ⊆ before.map (·.stepId)

/-- The steps of a translated plan are in their topological order. -/
theorem exists_orderedSteps
    (returned : translateCoordinationPlan request context policy = .ok result)
    (ready : result.status ∈ [.ready, .partial_]) :
    ∃ made steps ordered, result.executionPlan = some made ∧
      collectEach (executionStep request (assignedTasks request.coordinationPlan))
        (assignedTasks request.coordinationPlan) = .ok steps ∧
      topologicalStepIds (steps.map (·.toStepLike)) = .ok ordered ∧
      made.steps = ordered.filterMap fun stepId => steps.find? (·.stepId = stepId) := by
  obtain ⟨translatable, translations, translated, made⟩ := translatedResult_of_ready returned ready
  simp only [translatedResult, bind_eq_ok_iff, fromExecution_eq_ok_iff,
    translatable.executableTasks_eq translated] at made
  obtain ⟨steps, collected, ordered, computed, plan, planned, gates, -, made⟩ := made
  split at made
  · cases made
    exact absurd ready (by simp [terminalResult])
  · cases made
    exact ⟨plan, steps, ordered, rfl, collected, computed, steps_of_executionPlan planned⟩

/-- A ready or partial translation keeps the dependencies between the tasks it translates. -/
theorem keepsDependencies_of_ready
    (returned : translateCoordinationPlan request context policy = .ok result)
    (ready : result.status ∈ [.ready, .partial_]) :
    ∃ made, result.executionPlan = some made ∧
      KeepsDependencies request.coordinationPlan result made := by
  have translated := translated_of_ready returned ready
  have executed := translated.translatable.executed
  have executes := executed.executes
  obtain ⟨made, steps, ordered, isMade, collected, computed, arranged⟩ :=
    exists_orderedSteps returned ready
  have nodes := nodes_of_collected collected
  have distinctNodes : ((steps.map (·.toStepLike)).map (·.stepId)).Nodup :=
    nodes ▸ executes.distinctSteps
  have same : made.steps.Perm steps := arranged ▸ executed.perm_ordered collected computed
  have sameNodes : (made.steps.map (·.toStepLike)).Perm (steps.map (·.toStepLike)) := same.map _
  have names : NamesDependency (made.steps.map (·.toStepLike)) =
      StepDependsOn request.coordinationPlan (assignedTasks request.coordinationPlan) := by
    funext stepId dependency
    simp only [NamesDependency, StepDependsOn, sameNodes.mem_iff, nodes, List.mem_map,
      exists_exists_and_eq_and]
    rfl
  obtain ⟨orderly, all⟩ := topologicalStepIds_order distinctNodes computed
  refine ⟨made, isMade, ?_, ?_, ?_⟩
  · rw [translated.translatedTaskIds]
    intro first isFirst second isSecond
    obtain ⟨one, isOne, rfl⟩ := List.mem_map.mp isFirst
    obtain ⟨two, isTwo, rfl⟩ := List.mem_map.mp isSecond
    rw [StepReaches, names]
    exact stepDependsOn_iff_follows executes isOne isTwo
  · intro stepId cyclic
    have isCyclic : Cyclic (made.steps.map (·.toStepLike)) := ⟨stepId, cyclic⟩
    obtain ⟨listed, isListed, depends⟩ :=
      (cyclic_iff ((sameNodes.map _).nodup_iff.mpr distinctNodes)).mp isCyclic
    rw [dependenciesOf_perm distinctNodes sameNodes] at depends
    exact orderly.acyclic (all.mem_iff.mpr ((sameNodes.map _).mem_iff.mp isListed)) depends
  · intro before step after split
    have isStep : step ∈ steps := same.mem_iff.mp (by rw [split]; simp)
    have inOrder : made.steps.map (·.stepId) = ordered := by
      rw [arranged]
      refine (map_key_filterMap fun stepId listed => ?_).trans (List.map_id _)
      obtain ⟨found, isFound, rfl⟩ := List.mem_map.mp (all.mem_iff.mp listed)
      obtain ⟨other, isOther, rfl⟩ := List.mem_map.mp isFound
      refine ⟨other, (find?_key_eq_some_iff ?_).mpr ⟨isOther, rfl⟩, rfl⟩
      rwa [List.map_map] at distinctNodes
    have position : ordered = before.map (·.stepId) ++ step.stepId :: after.map (·.stepId) := by
      rw [← inOrder, split, List.map_append, List.map_cons]
    exact (topologicalStepIds_stable distinctNodes computed).after step.toStepLike
      (List.mem_map_of_mem isStep) _ _ position

/-- The plan in order is translated, and keeps the dependencies between its tasks. -/
theorem keepsDependencies_orderedPlan :
    ∃ made, Sample.orderedResult.executionPlan = some made ∧
      KeepsDependencies Sample.orderedPlan Sample.orderedResult made := by
  have returned : translateCoordinationPlan (Sample.translationOf Sample.orderedPlan)
      Sample.sampleContext {} = .ok Sample.orderedResult :=
    eq_ok_givenValue Sample.orderedPlan_translates
  exact keepsDependencies_of_ready returned (by decide +kernel)

end PolicyOS.Orchestration
