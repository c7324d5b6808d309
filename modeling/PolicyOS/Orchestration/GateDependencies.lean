import PolicyOS.Orchestration.TranslationTotal

/-!
# Dependencies on gates

The gates are made in one pass over the tasks, so a gate lists only the gates before it,
and steps list steps only. What a result records of gates is therefore complete exactly
where every gate comes after those it depends on and no specialist waits for a human
review.
-/

namespace PolicyOS.Orchestration

open Foundation Intelligence

variable {request : CoordinationExecutionTranslationRequest}
  {context : CoordinationExecutionTranslationContext}
  {policy : CoordinationExecutionTranslationPolicy}
  {result : CoordinationExecutionTranslationResult} {plan : CoordinationPlan}

/-! ## What a result records -/

/-- A task is done by no agent, and stands for a gate. -/
def IsGate (task : CoordinationTask) : Prop := gateTypeOf task.taskType ≠ none

instance (task : CoordinationTask) : Decidable (IsGate task) :=
  inferInstanceAs (Decidable (_ ≠ _))

/-- Every gate lists the gates of the tasks that its task depends on. -/
def ListsGates (plan : CoordinationPlan) (result : CoordinationExecutionTranslationResult) : Prop :=
  ∀ gate ∈ result.approvalGates, ∀ other ∈ result.approvalGates, ∀ task ∈ plan.tasks,
    task.taskId = gate.coordinationTaskId → other.coordinationTaskId ∈ task.dependencyTaskIds →
      other.gateId ∈ gate.dependencyGateIds

instance : Decidable (ListsGates plan result) :=
  inferInstanceAs (Decidable (∀ gate ∈ result.approvalGates, ∀ other ∈ result.approvalGates,
    ∀ task ∈ plan.tasks, _ → _ → _))

/-- A step or a gate of a result lists an identifier as one it depends on. -/
def Lists (result : CoordinationExecutionTranslationResult) (id dependency : String) : Prop :=
  (∃ made, result.executionPlan = some made ∧
    ∃ step ∈ made.steps, step.stepId = id ∧ dependency ∈ step.dependencies) ∨
  ∃ gate ∈ result.approvalGates, gate.gateId = id ∧
    (dependency ∈ gate.dependencyStepIds ∨ dependency ∈ gate.dependencyGateIds)

/-- A result records a dependency: it is listed, or it is of one that is listed. -/
def Records (result : CoordinationExecutionTranslationResult) : String → String → Prop :=
  Relation.TransGen (Lists result)

/-- For every task of a specialist, the human reviews it depends on are recorded. -/
def RecordsReviews (plan : CoordinationPlan) (result : CoordinationExecutionTranslationResult) :
    Prop :=
  ∀ task ∈ plan.tasks, task.taskType ∈ specialistTypes → ∀ review ∈ plan.tasks,
    review.taskType = .humanReviewGate → Follows plan task.taskId review.taskId →
      Records result (stepIdOf task.taskId) (gateIdOf review.taskId)

/-- A result keeps the dependencies on gates. -/
structure KeepsGates (plan : CoordinationPlan) (result : CoordinationExecutionTranslationResult) :
    Prop where
  listed : ListsGates plan result
  recorded : RecordsReviews plan result

/-! ## The gates of the tasks -/

/-- The identifiers of the tasks that are gates. -/
def gateTaskIds (tasks : List CoordinationTask) : List String :=
  taskIds (tasks.filter (IsGate ·))

variable {gate : ExecutionApprovalGate}

/-- The gates of tasks are those of each gate task, made with the gates before it. -/
theorem mem_approvalGates_iff {executable tasks : List CoordinationTask} {listed : List String}
    {gates : List ExecutionApprovalGate}
    (gated : approvalGates request executable listed tasks = .ok gates) :
    gate ∈ gates ↔ ∃ before task after gateType, tasks = before ++ task :: after ∧
      gateTypeOf task.taskType = some gateType ∧
      approvalGate request executable (listed ++ gateTaskIds before ++ [task.taskId]) gateType
        task = .ok gate := by
  induction tasks generalizing listed gates with
  | nil =>
      cases gated
      simp
  | cons first rest ih =>
      rw [approvalGates] at gated
      cases isType : gateTypeOf first.taskType with
      | none =>
          rw [isType] at gated
          have skipped : ∀ before, gateTaskIds (first :: before) = gateTaskIds before := by
            intro before
            simp [gateTaskIds, IsGate, isType]
          rw [ih gated]
          constructor
          · rintro ⟨before, task, after, gateType, rfl, isGate, made⟩
            exact ⟨first :: before, task, after, gateType, rfl, isGate, by rwa [skipped]⟩
          · rintro ⟨before, task, after, gateType, split, isGate, made⟩
            cases before with
            | nil =>
                cases split
                rw [isType] at isGate
                cases isGate
            | cons head before =>
                cases split
                exact ⟨before, task, after, gateType, rfl, isGate, by rwa [skipped] at made⟩
      | some kind =>
          simp only [isType, bind_eq_ok_iff, pure_eq_ok_iff] at gated
          obtain ⟨own, isOwn, others, areOthers, rfl⟩ := gated
          have added : ∀ before, listed ++ gateTaskIds (first :: before) =
              listed ++ [first.taskId] ++ gateTaskIds before := by
            intro before
            simp [gateTaskIds, taskIds, IsGate, isType]
          rw [List.mem_cons, ih areOthers]
          constructor
          · rintro (rfl | ⟨before, task, after, gateType, rfl, isGate, made⟩)
            · exact ⟨[], first, rest, kind, rfl, isType, by simpa [gateTaskIds, taskIds] using isOwn⟩
            · exact ⟨first :: before, task, after, gateType, rfl, isGate, by rwa [added]⟩
          · rintro ⟨before, task, after, gateType, split, isGate, made⟩
            cases before with
            | nil =>
                cases split
                rw [isType] at isGate
                cases isGate
                simp only [gateTaskIds, taskIds, List.filter_nil, List.map_nil, List.append_nil,
                  isOwn] at made
                cases made
                exact .inl rfl
            | cons head before =>
                cases split
                exact .inr ⟨before, task, after, gateType, rfl, isGate, by rwa [added] at made⟩

theorem approvalGate_eq_ok {executable : List CoordinationTask} {listed : List String}
    {gateType : ExecutionGateType} {task : CoordinationTask}
    (made : approvalGate request executable listed gateType task = .ok gate) :
    gate.gateId = gateIdOf task.taskId ∧ gate.coordinationTaskId = task.taskId ∧
      gate.dependencyGateIds =
        sortedBy id ((task.dependencyTaskIds.filter (· ∈ listed)).map gateIdOf) := by
  simp only [approvalGate, bind_eq_ok_iff, exists_unit_iff, pure_eq_ok_iff] at made
  obtain ⟨deadline, -, -, rfl⟩ := made
  exact ⟨rfl, rfl, rfl⟩

theorem Translated.gate_of_mem (translated : Translated request context policy result)
    (isGate : gate ∈ result.approvalGates) :
    ∃ before task after, request.coordinationPlan.tasks = before ++ task :: after ∧ IsGate task ∧
      gate.gateId = gateIdOf task.taskId ∧ gate.coordinationTaskId = task.taskId ∧
      gate.dependencyGateIds = sortedBy id ((task.dependencyTaskIds.filter
        (· ∈ gateTaskIds before ++ [task.taskId])).map gateIdOf) := by
  obtain ⟨before, task, after, gateType, split, isType, made⟩ :=
    (mem_approvalGates_iff translated.gates).mp isGate
  exact ⟨before, task, after, split, by simp [IsGate, isType],
    by simpa using approvalGate_eq_ok made⟩

/-- Every gate task has its gate. -/
theorem Translated.exists_gate (translated : Translated request context policy result)
    {before after : List CoordinationTask} {task : CoordinationTask}
    (split : request.coordinationPlan.tasks = before ++ task :: after) (isGate : IsGate task) :
    ∃ gate ∈ result.approvalGates,
      gate.gateId = gateIdOf task.taskId ∧ gate.coordinationTaskId = task.taskId ∧
      gate.dependencyGateIds = sortedBy id ((task.dependencyTaskIds.filter
        (· ∈ gateTaskIds before ++ [task.taskId])).map gateIdOf) := by
  obtain ⟨gateType, isType⟩ := Option.ne_none_iff_exists'.mp isGate
  have present : task ∈ request.coordinationPlan.tasks := by
    rw [split]
    simp
  have aware : isAware task.deadline := by
    have onTime := (translated.translatable.tasks task present).scope.onTime
    revert onTime
    cases task.deadline <;> simp [isOnTime, isAware]
  obtain ⟨gate, made⟩ : Accepted (approvalGate request (assignedTasks request.coordinationPlan)
      (gateTaskIds before ++ [task.taskId]) gateType task) := approvalGate_accepted_iff.mpr aware
  exact ⟨gate, (mem_approvalGates_iff translated.gates).mpr
    ⟨before, task, after, gateType, split, isType, by simpa using made⟩, approvalGate_eq_ok made⟩

/-! ## Where the gates are kept -/

/-- Every gate task comes after the gate tasks it depends on. -/
def GatesInOrder (plan : CoordinationPlan) : Prop :=
  ∀ before task after, plan.tasks = before ++ task :: after → IsGate task →
    ∀ other ∈ plan.tasks, IsGate other → other.taskId ∈ task.dependencyTaskIds → other ∈ before

/-- No task of a specialist depends on a human review. -/
def NoneAwaitsReview (plan : CoordinationPlan) : Prop :=
  ∀ task ∈ plan.tasks, task.taskType ∈ specialistTypes → ∀ review ∈ plan.tasks,
    review.taskType = .humanReviewGate → ¬ Follows plan task.taskId review.taskId

/-- A gate identifier is listed of the gates up to its task exactly when its task is
before. -/
theorem Translated.mem_listed_iff (translated : Translated request context policy result)
    {before after : List CoordinationTask} {task other : CoordinationTask}
    (split : request.coordinationPlan.tasks = before ++ task :: after)
    (present : other ∈ request.coordinationPlan.tasks) (isGate : IsGate other)
    (depends : other.taskId ∈ task.dependencyTaskIds) :
    gateIdOf other.taskId ∈ sortedBy id ((task.dependencyTaskIds.filter
      (· ∈ gateTaskIds before ++ [task.taskId])).map gateIdOf) ↔ other ∈ before := by
  have graph := translated.translatable.graph
  have isTask : task ∈ request.coordinationPlan.tasks := by
    rw [split]
    simp
  rw [mem_sortedBy, List.mem_map]
  constructor
  · rintro ⟨dependency, isListed, sameGate⟩
    obtain ⟨-, listed⟩ := List.mem_filter.mp isListed
    rcases List.mem_append.mp (of_decide_eq_true listed) with earlier | own
    · obtain ⟨gate, isEarlier, rfl⟩ := List.mem_map.mp earlier
      have isBefore := (List.mem_filter.mp isEarlier).1
      have same := gateIdOf_injective gate.taskIdPattern other.taskIdPattern sameGate
      have isPresent : gate ∈ request.coordinationPlan.tasks := by
        rw [split]
        exact List.mem_append_left _ isBefore
      rwa [← List.inj_on_of_nodup_map graph.distinct isPresent present same]
    · obtain rfl := List.mem_singleton.mp own
      have same := gateIdOf_injective task.taskIdPattern other.taskIdPattern sameGate
      rw [← same] at depends
      exact absurd rfl (follows_other graph isTask
        (follows_dependency graph.distinct isTask depends)).2
  · intro isBefore
    refine ⟨other.taskId, List.mem_filter.mpr ⟨depends, decide_eq_true ?_⟩, rfl⟩
    exact List.mem_append_left _
      (List.mem_map_of_mem (List.mem_filter.mpr ⟨isBefore, decide_eq_true isGate⟩))

/-- The gates list those they depend on exactly where they come after them. -/
theorem Translated.listsGates_iff (translated : Translated request context policy result) :
    ListsGates request.coordinationPlan result ↔ GatesInOrder request.coordinationPlan := by
  have distinct := translated.translatable.graph.distinct
  constructor
  · intro lists before task after split isGate other present isOther depends
    obtain ⟨gate, isListed, -, ofTask, gateIds⟩ := translated.exists_gate split isGate
    obtain ⟨start, rest, otherSplit⟩ := List.append_of_mem present
    obtain ⟨otherGate, isOtherListed, otherId, ofOther, -⟩ :=
      translated.exists_gate otherSplit isOther
    have isTask : task ∈ request.coordinationPlan.tasks := by
      rw [split]
      simp
    have listed := lists gate isListed otherGate isOtherListed task isTask ofTask.symm
      (ofOther ▸ depends)
    rw [otherId, gateIds] at listed
    exact (translated.mem_listed_iff split present isOther depends).mp listed
  · intro inOrder gate isListed otherGate isOtherListed task isTask ofTask depends
    obtain ⟨before, made, after, split, isGate, -, gateTask, gateIds⟩ :=
      translated.gate_of_mem isListed
    obtain ⟨start, other, rest, otherSplit, isOther, otherId, ofOther, -⟩ :=
      translated.gate_of_mem isOtherListed
    have isMade : made ∈ request.coordinationPlan.tasks := by
      rw [split]
      simp
    have present : other ∈ request.coordinationPlan.tasks := by
      rw [otherSplit]
      simp
    obtain rfl := List.inj_on_of_nodup_map distinct isTask isMade (ofTask.trans gateTask)
    rw [ofOther] at depends
    rw [otherId, gateIds]
    exact (translated.mem_listed_iff split present isOther depends).mpr
      (inOrder before task after split isGate other present isOther depends)

/-- What a step records is a step. -/
theorem Translated.records_step (translated : Translated request context policy result)
    {start : CoordinationTask} {id : String}
    (records : Records result (stepIdOf start.taskId) id) :
    ∃ task : CoordinationTask, stepIdOf task.taskId = id := by
  obtain ⟨made, isMade, steps, collected, same⟩ := translated.executionPlan
  have executes := translated.translatable.executed.executes
  have stepOfStep : ∀ {task : CoordinationTask} {dependency : String},
      Lists result (stepIdOf task.taskId) dependency →
        ∃ other : CoordinationTask, stepIdOf other.taskId = dependency := by
    rintro task dependency (⟨plan, isPlan, step, isStep, -, depends⟩ | ⟨gate, isGate, sameId, -⟩)
    · obtain rfl : made = plan := Option.some.inj (isMade.symm.trans isPlan)
      obtain ⟨own, assigned, built⟩ := mem_of_collectEach collected (same.mem_iff.mp isStep)
      rw [(executionStep_eq_ok built).1] at depends
      obtain ⟨taskId, isExecuted, -, rfl⟩ := mem_stepDependencies executes.graph
        (executes.listed.subset assigned) depends
      obtain ⟨other, -, rfl⟩ := List.mem_map.mp isExecuted
      exact ⟨other, rfl⟩
    · obtain ⟨-, gateTask, -, -, -, gateId, -⟩ := translated.gate_of_mem isGate
      rw [gateId] at sameId
      exact absurd sameId.symm stepIdOf_ne_gateIdOf
  induction records with
  | single lists => exact stepOfStep lists
  | tail _ lists ih =>
      obtain ⟨task, rfl⟩ := ih
      exact stepOfStep lists

theorem Translated.recordsReviews_iff (translated : Translated request context policy result) :
    RecordsReviews request.coordinationPlan result ↔
      NoneAwaitsReview request.coordinationPlan := by
  refine forall₂_congr fun task _ => forall_congr' fun _ => forall₂_congr fun review _ =>
    forall_congr' fun _ => ⟨fun recorded follows => ?_, fun none follows => absurd follows none⟩
  obtain ⟨step, isStep⟩ := translated.records_step (recorded follows)
  exact stepIdOf_ne_gateIdOf isStep

/-- A ready or partial translation keeps the dependencies on gates exactly when every gate
is listed after those it depends on and no task of a specialist awaits a human review. -/
theorem keepsGates_iff
    (returned : translateCoordinationPlan request context policy = .ok result)
    (ready : result.status ∈ [.ready, .partial_]) :
    KeepsGates request.coordinationPlan result ↔
      GatesInOrder request.coordinationPlan ∧ NoneAwaitsReview request.coordinationPlan := by
  have translated := translated_of_ready returned ready
  rw [← translated.listsGates_iff, ← translated.recordsReviews_iff]
  exact ⟨fun keeps => ⟨keeps.listed, keeps.recorded⟩, fun ⟨listed, recorded⟩ => ⟨listed, recorded⟩⟩

/-! ## A plan in order, and one that is not -/

namespace Sample

/-- The research of both plans. -/
def researchTask : CoordinationTask :=
  givenValue (CoordinationTask.validated (taskFields "task.research" .research []))
    (by decide +kernel)

/-- Its delegation. -/
def researchDelegation : DelegationRequest :=
  givenValue (DelegationRequest.validated (delegationFields 5 .policyResearcher researchTask))
    (by decide +kernel)

/-- The integration of the research. -/
def integrationTask : CoordinationTask :=
  givenValue (CoordinationTask.validated
    (taskFields "task.integration" .integration ["task.research"])) (by decide +kernel)

/-- The quality review of the integration. -/
def qualityTask : CoordinationTask :=
  givenValue (CoordinationTask.validated
    (taskFields "task.quality" .qualityReview ["task.integration"])) (by decide +kernel)

/-- The human review of the research. -/
def reviewTask : CoordinationTask :=
  givenValue (CoordinationTask.validated
    (taskFields "task.review" .humanReviewGate ["task.research"])) (by decide +kernel)

/-- Statistics that wait for the human review. -/
def statisticsTask : CoordinationTask :=
  givenValue (CoordinationTask.validated
    (taskFields "task.statistics" .statisticsAnalysis ["task.review"])) (by decide +kernel)

/-- Their delegation. -/
def statisticsDelegation : DelegationRequest :=
  givenValue (DelegationRequest.validated (delegationFields 7 .statisticsAnalyst statisticsTask))
    (by decide +kernel)

/-- A plan whose tasks come after those they depend on. -/
def orderedPlan : CoordinationPlan :=
  samplePlan [researchTask, integrationTask, qualityTask, reviewTask] [researchDelegation]
    [assignment 6 "policy.researcher" researchDelegation]

theorem orderedPlan_ready :
    (translateCoordinationPlan (translationOf orderedPlan) sampleContext {}).toOption.any
      fun result => result.status ∈ [.ready, .partial_] := by
  decide +kernel

theorem orderedPlan_translates :
    (translateCoordinationPlan (translationOf orderedPlan) sampleContext {}).toOption.isSome :=
  Option.isSome_of_any orderedPlan_ready

/-- Its translation. -/
def orderedResult : CoordinationExecutionTranslationResult :=
  givenValue _ orderedPlan_translates

/-- A plan with the quality review before the integration, and statistics that wait for
the human review. -/
def unorderedPlan : CoordinationPlan :=
  samplePlan [qualityTask, integrationTask, researchTask, reviewTask, statisticsTask]
    [researchDelegation, statisticsDelegation]
    [assignment 6 "policy.researcher" researchDelegation,
      assignment 8 "statistics.analyst" statisticsDelegation]

theorem unorderedPlan_unlisted :
    (translateCoordinationPlan (translationOf unorderedPlan) sampleContext {}).toOption.any
      fun result => result.status = .ready ∧ ¬ ListsGates unorderedPlan result := by
  decide +kernel

theorem unorderedPlan_translates :
    (translateCoordinationPlan (translationOf unorderedPlan) sampleContext {}).toOption.isSome :=
  Option.isSome_of_any unorderedPlan_unlisted

/-- Its translation. -/
def unorderedResult : CoordinationExecutionTranslationResult :=
  givenValue _ unorderedPlan_translates

end Sample

/-- The condition for the plan in order. -/
theorem keepsGates_orderedPlan :
    KeepsGates Sample.orderedPlan Sample.orderedResult ↔
      GatesInOrder Sample.orderedPlan ∧ NoneAwaitsReview Sample.orderedPlan := by
  have returned : translateCoordinationPlan (Sample.translationOf Sample.orderedPlan)
      Sample.sampleContext {} = .ok Sample.orderedResult :=
    eq_ok_givenValue Sample.orderedPlan_translates
  exact keepsGates_iff returned
    (of_decide_eq_true (givenValue_of_any Sample.orderedPlan_ready Sample.orderedPlan_translates))

theorem Sample.statistics_follow :
    Follows Sample.unorderedPlan Sample.statisticsTask.taskId Sample.reviewTask.taskId :=
  .single (by decide +kernel)

/-- The other plan is translated, and keeps neither the gate of the quality review nor the
human review of the statistics. -/
theorem gates_lost_unorderedPlan :
    translateCoordinationPlan (Sample.translationOf Sample.unorderedPlan) Sample.sampleContext {} =
        .ok Sample.unorderedResult ∧
      Sample.unorderedResult.status = .ready ∧
      ¬ ListsGates Sample.unorderedPlan Sample.unorderedResult ∧
      ¬ RecordsReviews Sample.unorderedPlan Sample.unorderedResult := by
  have returned : translateCoordinationPlan (Sample.translationOf Sample.unorderedPlan)
      Sample.sampleContext {} = .ok Sample.unorderedResult :=
    eq_ok_givenValue Sample.unorderedPlan_translates
  obtain ⟨ready, unlisted⟩ : Sample.unorderedResult.status = .ready ∧
      ¬ ListsGates Sample.unorderedPlan Sample.unorderedResult :=
    of_decide_eq_true
      (givenValue_of_any Sample.unorderedPlan_unlisted Sample.unorderedPlan_translates)
  have translated := translated_of_ready returned (by rw [ready]; decide)
  refine ⟨returned, ready, unlisted, fun recorded => ?_⟩
  exact translated.recordsReviews_iff.mp recorded Sample.statisticsTask (by decide +kernel)
    (by decide +kernel) Sample.reviewTask (by decide +kernel) (by decide +kernel)
    Sample.statistics_follow

end PolicyOS.Orchestration
