import PolicyOS.Orchestration.TranslatedPlan

/-!
# Tasks and their assignments

Which tasks of a plan are translated, read off the plan itself: those of specialists that
one assignment alone matches. What the loop over the tasks raises, which issues it finds
and which tasks it translates follows from these matches, whatever was used before.
-/

namespace PolicyOS.Orchestration

open Foundation Intelligence

/-! ## Matches -/

/-- The one assignment that matches a task of a specialist. -/
def soleMatch (plan : CoordinationPlan) (task : CoordinationTask) :
    Option (AgentAssignment × DelegationRequest) :=
  if task.taskType ∈ specialistTypes then
    match matching plan task with
    | [found] => some found
    | _ => none
  else none

/-- The matches of tasks, in the order of the tasks. -/
def soleMatches (plan : CoordinationPlan) (tasks : List CoordinationTask) :
    List (AgentAssignment × DelegationRequest) :=
  tasks.filterMap (soleMatch plan)

/-- The identifiers of the matched assignments. -/
def soleIds (plan : CoordinationPlan) (tasks : List CoordinationTask) : List UUID :=
  (soleMatches plan tasks).map (·.1.assignmentId)

/-- The tasks of a plan that an assignment alone matches. -/
def assignedTasks (plan : CoordinationPlan) : List CoordinationTask :=
  plan.tasks.filter fun task => (soleMatch plan task).isSome

variable {request : CoordinationExecutionTranslationRequest}
  {context : CoordinationExecutionTranslationContext}
  {policy : CoordinationExecutionTranslationPolicy}
  {task : CoordinationTask} {tasks : List CoordinationTask} {used : List UUID}
  {found : AgentAssignment × DelegationRequest}

/-- An optional task of a partial plan that nothing matches may stay untranslated. -/
def MayStayUntranslated (request : CoordinationExecutionTranslationRequest)
    (policy : CoordinationExecutionTranslationPolicy) (task : CoordinationTask) : Prop :=
  task.required = false ∧ request.coordinationPlan.status = .partial_ ∧
    policy.allowUnassignedOptionalTasks = true ∧ matching request.coordinationPlan task = []

instance : Decidable (MayStayUntranslated request policy task) :=
  inferInstanceAs (Decidable (_ ∧ _))

variable {plan : CoordinationPlan}

theorem specialist_of_soleMatch (isMatch : soleMatch plan task = some found) :
    task.taskType ∈ specialistTypes := by
  by_contra other
  simp [soleMatch, other] at isMatch

theorem matching_of_soleMatch (isMatch : soleMatch plan task = some found) :
    matching plan task = [found] := by
  rw [soleMatch, if_pos (specialist_of_soleMatch isMatch)] at isMatch
  split at isMatch
  next single =>
    cases isMatch
    exact single
  next => cases isMatch

theorem chooseAssignment_of_match
    (isMatch : soleMatch request.coordinationPlan task = some found) :
    chooseAssignment request policy used task =
      if found.1.assignmentId ∈ used then .reused found.1 else .assigned found.1 found.2 := by
  simp only [chooseAssignment, specialist_of_soleMatch isMatch, matching_of_soleMatch isMatch,
    not_true_eq_false, if_false]

/-- A task of a specialist without a match may stay untranslated, or its assignment is
missing. -/
theorem chooseAssignment_of_no_match (specialist : task.taskType ∈ specialistTypes)
    (noMatch : soleMatch request.coordinationPlan task = none) :
    chooseAssignment request policy used task =
      if MayStayUntranslated request policy task then .untranslated else .missing := by
  rw [soleMatch, if_pos specialist] at noMatch
  simp only [chooseAssignment, specialist, not_true_eq_false, if_false]
  split
  next assignment delegation single =>
    rw [single] at noMatch
    cases noMatch
  next => rfl

theorem chooseAssignment_of_boundary (boundary : task.taskType ∉ specialistTypes) :
    chooseAssignment request policy used task = .boundary := by
  simp [chooseAssignment, boundary]

/-! ## What a task must be -/

/-- A moment is no later than an instant. -/
def isOnTime : Moment → DateTime → Prop
  | .aware instant, limit => instant ≤ limit
  | .naive _, _ => False

theorem isOnTime_iff {moment : Moment} {limit : DateTime} {late : Bool}
    (compared : after moment limit = .ok late) : isOnTime moment limit ↔ ¬ late = true := by
  cases moment with
  | aware instant =>
      cases compared
      simp [isOnTime]
  | naive reading => cases compared

/-- A task is of the tenant and the classification of its plan, and on time. -/
structure InScope (request : CoordinationExecutionTranslationRequest) (task : CoordinationTask) :
    Prop where
  tenant : task.organizationId = request.coordinationPlan.organizationId
  classification : task.classification = request.coordinationPlan.classification
  onTime : isOnTime task.deadline request.deadline

/-- An assignment is what its task asks for. -/
structure Fits (request : CoordinationExecutionTranslationRequest)
    (policy : CoordinationExecutionTranslationPolicy) (task : CoordinationTask)
    (assignment : AgentAssignment) (delegation : DelegationRequest) : Prop where
  prepared : assignment.status = .prepared
  eligible : assignment.agentId ∈
    eligibleAgentIds request.coordinationPlan assignment.delegationId
  role : assignment.role ≠ .secretary ∧ some assignment.role = task.requiredRole
  capabilities : assignment.approvedCapabilities = task.requiredCapabilities
  products : assignment.expectedWorkProductTypes = task.expectedWorkProductTypes
  tenant : assignment.organizationId = request.coordinationPlan.organizationId
  classification : assignment.classification = request.coordinationPlan.classification
  onTime : isOnTime assignment.deadline request.deadline
  contract : ¬ exceedsContract policy task delegation

/-- A task that is translated without issues, where its assignment is not used yet. -/
structure TranslatableTask (request : CoordinationExecutionTranslationRequest)
    (policy : CoordinationExecutionTranslationPolicy) (task : CoordinationTask) : Prop where
  scope : InScope request task
  matched : task.taskType ∈ specialistTypes → soleMatch request.coordinationPlan task = none →
    MayStayUntranslated request policy task
  fits : ∀ found, soleMatch request.coordinationPlan task = some found →
    Fits request policy task found.1 found.2

theorem gateTypeOf_eq_none_iff {taskType : CoordinationTaskType} :
    gateTypeOf taskType = none ↔ taskType ∈ specialistTypes := by
  cases taskType <;> decide

theorem scopeIssues_eq_nil_iff {late : Bool}
    (compared : after task.deadline request.deadline = .ok late) :
    scopeIssues request task late = [] ↔ InScope request task := by
  simp only [scopeIssues, List.append_eq_nil_iff, issueWhen_eq_nil_iff, not_not,
    ← isOnTime_iff compared, gateTypeOf_eq_none_iff, not_and_self_iff, not_false_iff, and_true]
  exact ⟨fun passed => ⟨passed.1.1, passed.1.2, passed.2⟩,
    fun scope => ⟨⟨scope.tenant, scope.classification⟩, scope.onTime⟩⟩

/-- An assignment within the contract has no issue exactly when it fits. -/
theorem assignmentIssues_eq_nil_iff {assignment : AgentAssignment} {delegation : DelegationRequest}
    {late : Bool} (compared : after assignment.deadline request.deadline = .ok late)
    (contract : ¬ exceedsContract policy task delegation) :
    assignmentIssues request task assignment late = [] ↔
      Fits request policy task assignment delegation := by
  simp only [assignmentIssues, List.append_eq_nil_iff, issueWhen_eq_nil_iff, not_not,
    ← isOnTime_iff compared, not_or]
  constructor
  · rintro ⟨⟨⟨⟨⟨⟨⟨prepared, eligible⟩, role⟩, capabilities⟩, products⟩, tenant⟩, classification⟩,
      onTime⟩
    exact ⟨prepared, eligible, role, capabilities, products, tenant, classification, onTime,
      contract⟩
  · intro fits
    exact ⟨⟨⟨⟨⟨⟨⟨fits.prepared, fits.eligible⟩, fits.role⟩, fits.capabilities⟩, fits.products⟩,
      fits.tenant⟩, fits.classification⟩, fits.onTime⟩

/-! ## One task -/

/-- The translation of a task, after some assignments were used. -/
structure TranslatesTask (request : CoordinationExecutionTranslationRequest)
    (policy : CoordinationExecutionTranslationPolicy) (used : List UUID) (task : CoordinationTask)
    (translation : TaskTranslation) : Prop where
  ofTask : translation.task = task
  issues : translation.issues = [] ↔ TranslatableTask request policy task ∧
    ∀ found, soleMatch request.coordinationPlan task = some found → found.1.assignmentId ∉ used
  translated : translation.issues = [] →
    translation.translated.isSome = (soleMatch request.coordinationPlan task).isSome
  used : translation.used =
    ((soleMatch request.coordinationPlan task).map (·.1.assignmentId)).filter (· ∉ used)
  named : ∀ executionRequest binding, translation.translated = some (executionRequest, binding) →
    executionRequest.taskId = task.taskId ∧ binding.taskId = task.taskId

theorem assignmentExecutionRequest_accepted_iff :
    Accepted (assignmentExecutionRequest request context task found.1 found.2) ↔
      isAware found.1.deadline := by
  have shaped : prefixedName "request." 180 (requestIdOf request.translationId task.taskId) = true :=
    prefixedName_translated task.taskIdPattern
  rw [assignmentExecutionRequest, accepted_bind_iff,
    ← @accepted_earlier_iff found.1.deadline request.deadline]
  refine exists_congr fun deadline => and_iff_left ?_
  rw [accepted_bind_iff]
  exact ⟨(), rejectIf_eq_ok_iff.mpr (by simp [shaped]), accepted_ok⟩

theorem assignmentExecutionBinding_accepted :
    Accepted (assignmentExecutionBinding request task found.1) := by
  have shaped : prefixedName "binding." 180 (bindingIdOf request.translationId task.taskId) = true :=
    prefixedName_translated task.taskIdPattern
  rw [assignmentExecutionBinding, accepted_bind_iff]
  exact ⟨(), rejectIf_eq_ok_iff.mpr (by simp [shaped]), accepted_ok⟩

theorem taskId_of_executionRequest {executionRequest : AssignmentExecutionRequest}
    (built : assignmentExecutionRequest request context task found.1 found.2 = .ok executionRequest) :
    executionRequest.taskId = task.taskId := by
  simp only [assignmentExecutionRequest, bind_eq_ok_iff, exists_unit_iff, pure_eq_ok_iff] at built
  obtain ⟨deadline, -, -, rfl⟩ := built
  rfl

theorem taskId_of_binding {binding : AssignmentExecutionBinding}
    (built : assignmentExecutionBinding request task found.1 = .ok binding) :
    binding.taskId = task.taskId := by
  simp only [assignmentExecutionBinding, bind_eq_ok_iff, exists_unit_iff, pure_eq_ok_iff] at built
  obtain ⟨-, rfl⟩ := built
  rfl

/-- A task is translated with its assignment exactly when the deadline of the assignment
is aware. -/
theorem translateAssigned_accepted_iff {scope : List ExecutionTranslationIssue} :
    Accepted (translateAssigned request context policy task scope found.1 found.2) ↔
      isAware found.1.deadline := by
  rw [translateAssigned, accepted_bind_iff]
  constructor
  · rintro ⟨late, compared, -⟩
    exact accepted_after_iff.mp ⟨late, compared⟩
  · intro aware
    obtain ⟨late, compared⟩ := accepted_after_iff.mpr aware
    refine ⟨late, compared, ?_⟩
    split
    · exact accepted_ok
    · obtain ⟨executionRequest, requested⟩ := assignmentExecutionRequest_accepted_iff.mpr aware
      obtain ⟨binding, bound⟩ := assignmentExecutionBinding_accepted
      exact accepted_bind_iff.mpr ⟨executionRequest, requested,
        accepted_bind_iff.mpr ⟨binding, bound, accepted_ok⟩⟩

/-- A task is translated exactly when its deadline and that of its unused assignment are
aware. -/
theorem translateTask_accepted_iff :
    Accepted (translateTask request context policy used task) ↔ isAware task.deadline ∧
      ∀ found, soleMatch request.coordinationPlan task = some found →
        found.1.assignmentId ∉ used → isAware found.1.deadline := by
  rw [translateTask, accepted_bind_iff, ← @accepted_after_iff task.deadline request.deadline,
    Accepted, ← exists_and_right]
  refine exists_congr fun late => and_congr_right fun _ => ?_
  by_cases specialist : task.taskType ∈ specialistTypes
  · cases isMatch : soleMatch request.coordinationPlan task with
    | none =>
        rw [chooseAssignment_of_no_match specialist isMatch]
        by_cases may : MayStayUntranslated request policy task
        · rw [if_pos may]
          exact iff_of_true ⟨_, rfl⟩ (by simp)
        · rw [if_neg may]
          exact iff_of_true ⟨_, rfl⟩ (by simp)
    | some found =>
        rw [chooseAssignment_of_match isMatch]
        by_cases isUsed : found.1.assignmentId ∈ used
        · rw [if_pos isUsed]
          exact iff_of_true ⟨_, rfl⟩ fun other same unused =>
            absurd isUsed (Option.some.inj same ▸ unused)
        · rw [if_neg isUsed]
          simp only [Option.some.injEq, forall_eq', isUsed, not_false_eq_true, forall_const]
          exact translateAssigned_accepted_iff
  · have noMatch : soleMatch request.coordinationPlan task = none := by
      rw [soleMatch, if_neg specialist]
    rw [chooseAssignment_of_boundary specialist, noMatch]
    exact iff_of_true ⟨_, rfl⟩ (by simp)

/-- The translation of a task with its assignment. -/
theorem translateAssigned_eq_ok {scope : List ExecutionTranslationIssue}
    {translation : TaskTranslation}
    (translated : translateAssigned request context policy task scope found.1 found.2 =
      .ok translation) :
    translation.task = task ∧ translation.used = some found.1.assignmentId ∧
      (translation.issues = [] ↔ scope = [] ∧ Fits request policy task found.1 found.2) ∧
      (translation.issues = [] → translation.translated.isSome = true) ∧
      ∀ executionRequest binding, translation.translated = some (executionRequest, binding) →
        executionRequest.taskId = task.taskId ∧ binding.taskId = task.taskId := by
  simp only [translateAssigned, bind_eq_ok_iff] at translated
  obtain ⟨late, compared, translated⟩ := translated
  split at translated
  next exceeds =>
    cases translated
    have notFit : ¬ Fits request policy task found.1 found.2 := fun fits => fits.contract exceeds
    simp [issueWhen, notFit]
  next within =>
    simp only [bind_eq_ok_iff, pure_eq_ok_iff] at translated
    obtain ⟨executionRequest, requested, binding, bound, rfl⟩ := translated
    refine ⟨rfl, rfl, ?_, fun _ => rfl, ?_⟩
    · rw [List.append_eq_nil_iff, assignmentIssues_eq_nil_iff compared within]
    · rintro _ _ ⟨⟩
      exact ⟨taskId_of_executionRequest requested, taskId_of_binding bound⟩

/-- The translation of a task. -/
theorem translateTask_eq_ok {translation : TaskTranslation}
    (translated : translateTask request context policy used task = .ok translation) :
    TranslatesTask request policy used task translation := by
  simp only [translateTask, bind_eq_ok_iff] at translated
  obtain ⟨late, compared, translated⟩ := translated
  by_cases specialist : task.taskType ∈ specialistTypes
  · cases isMatch : soleMatch request.coordinationPlan task with
    | none =>
        rw [chooseAssignment_of_no_match specialist isMatch] at translated
        by_cases may : MayStayUntranslated request policy task
        · rw [if_pos may] at translated
          cases translated
          refine ⟨rfl, ?_, by simp [isMatch], by simp [isMatch], by simp⟩
          rw [scopeIssues_eq_nil_iff compared]
          exact ⟨fun scope => ⟨⟨scope, fun _ _ => may, by simp [isMatch]⟩, by simp [isMatch]⟩,
            fun both => both.1.scope⟩
        · rw [if_neg may] at translated
          cases translated
          have unclean : ¬ TranslatableTask request policy task :=
            fun clean => may (clean.matched specialist isMatch)
          exact ⟨rfl, by simp [issueWhen, unclean], by simp [isMatch], by simp [isMatch], by simp⟩
    | some found =>
        rw [chooseAssignment_of_match isMatch] at translated
        by_cases isUsed : found.1.assignmentId ∈ used
        · rw [if_pos isUsed] at translated
          cases translated
          exact ⟨rfl, by simp [issueWhen, isMatch, isUsed], by simp [issueWhen],
            by simp [isMatch, isUsed, Option.filter_some], by simp⟩
        · rw [if_neg isUsed] at translated
          obtain ⟨ofTask, uses, issues, isTranslated, named⟩ := translateAssigned_eq_ok translated
          refine ⟨ofTask, ?_, by simpa [isMatch] using isTranslated,
            by simp [uses, isMatch, isUsed, Option.filter_some], named⟩
          rw [issues, scopeIssues_eq_nil_iff compared]
          constructor
          · rintro ⟨scope, fits⟩
            refine ⟨⟨scope, by simp [isMatch], ?_⟩, by simpa [isMatch] using isUsed⟩
            simpa [isMatch] using fits
          · rintro ⟨clean, -⟩
            exact ⟨clean.scope, clean.fits found isMatch⟩
  · have noMatch : soleMatch request.coordinationPlan task = none := by
      rw [soleMatch, if_neg specialist]
    rw [chooseAssignment_of_boundary specialist] at translated
    cases translated
    refine ⟨rfl, ?_, by simp [noMatch], by simp [noMatch], by simp⟩
    rw [scopeIssues_eq_nil_iff compared]
    exact ⟨fun scope => ⟨⟨scope, fun isOne => absurd isOne specialist, by simp [noMatch]⟩,
      by simp [noMatch]⟩, fun both => both.1.scope⟩

/-! ## All tasks -/

theorem soleMatches_cons_of_match (isMatch : soleMatch plan task = some found) :
    soleMatches plan (task :: tasks) = found :: soleMatches plan tasks :=
  List.filterMap_cons_some isMatch

theorem soleMatches_cons_of_no_match (noMatch : soleMatch plan task = none) :
    soleMatches plan (task :: tasks) = soleMatches plan tasks :=
  List.filterMap_cons_none noMatch

/-- Tasks are translated exactly when their deadlines are aware, and those of the first
assignments that are matched of every unused identifier. -/
theorem translateTasks_accepted_iff :
    Accepted (translateTasks request context policy used tasks) ↔
      (∀ task ∈ tasks, isAware task.deadline) ∧
        ∀ assignmentId ∉ used, ∀ found,
          (soleMatches request.coordinationPlan tasks).find?
            (·.1.assignmentId = assignmentId) = some found → isAware found.1.deadline := by
  induction tasks generalizing used with
  | nil => simp [translateTasks, soleMatches]
  | cons task rest ih =>
      rw [translateTasks, List.forall_mem_cons, accepted_bind_iff]
      constructor
      · rintro ⟨first, isFirst, later⟩
        obtain ⟨translations, areLater, -⟩ := accepted_bind_iff.mp later
        obtain ⟨aware, ownAware⟩ := translateTask_accepted_iff.mp ⟨first, isFirst⟩
        obtain ⟨otherAware, othersAware⟩ := ih.mp ⟨translations, areLater⟩
        rw [(translateTask_eq_ok isFirst).used] at othersAware
        refine ⟨⟨aware, otherAware⟩, fun assignmentId unused found isFound => ?_⟩
        cases isMatch : soleMatch request.coordinationPlan task with
        | none =>
            rw [soleMatches_cons_of_no_match isMatch] at isFound
            exact othersAware assignmentId (by simpa [isMatch] using unused) found isFound
        | some own =>
            rw [soleMatches_cons_of_match isMatch, List.find?_cons] at isFound
            by_cases same : own.1.assignmentId = assignmentId
            · rw [decide_eq_true same] at isFound
              obtain rfl := Option.some.inj isFound
              exact ownAware own isMatch (same ▸ unused)
            · rw [decide_eq_false same] at isFound
              refine othersAware assignmentId ?_ found isFound
              rw [isMatch, Option.map_some, Option.filter_some]
              split <;> simp [unused, Ne.symm same]
      · rintro ⟨⟨aware, otherAware⟩, matchedAware⟩
        obtain ⟨first, isFirst⟩ : Accepted (translateTask request context policy used task) := by
          refine translateTask_accepted_iff.mpr ⟨aware, fun own isMatch unused => ?_⟩
          refine matchedAware own.1.assignmentId unused own ?_
          rw [soleMatches_cons_of_match isMatch]
          simp
        refine ⟨first, isFirst, ?_⟩
        have uses := (translateTask_eq_ok isFirst).used
        obtain ⟨translations, areLater⟩ :
            Accepted (translateTasks request context policy (used ++ first.used.toList) rest) := by
          refine ih.mpr ⟨otherAware, fun assignmentId unused found isFound => ?_⟩
          rw [List.mem_append, not_or] at unused
          refine matchedAware assignmentId unused.1 found ?_
          cases isMatch : soleMatch request.coordinationPlan task with
          | none => rwa [soleMatches_cons_of_no_match isMatch]
          | some own =>
              have apart : own.1.assignmentId ≠ assignmentId := by
                rintro rfl
                exact unused.2 (by simp [uses, isMatch, Option.filter_some, unused.1])
              rw [soleMatches_cons_of_match isMatch, List.find?_cons, decide_eq_false apart]
              exact isFound
        exact accepted_bind_iff.mpr ⟨translations, areLater, ⟨_, rfl⟩⟩

/-- The translations of tasks, after some assignments were used. -/
structure TranslatesTasks (request : CoordinationExecutionTranslationRequest)
    (policy : CoordinationExecutionTranslationPolicy) (used : List UUID)
    (tasks : List CoordinationTask) (translations : List TaskTranslation) : Prop where
  issues : translations.flatMap (·.issues) = [] ↔
    (∀ task ∈ tasks, TranslatableTask request policy task) ∧
      (soleIds request.coordinationPlan tasks).Nodup ∧
        ∀ assignmentId ∈ soleIds request.coordinationPlan tasks, assignmentId ∉ used
  translated : translations.flatMap (·.issues) = [] → executableTasks translations =
    tasks.filter fun task => (soleMatch request.coordinationPlan task).isSome
  requests : (translations.filterMap (·.translated.map (·.1))).map (·.taskId) =
    taskIds (executableTasks translations)
  bindings : (translations.filterMap (·.translated.map (·.2))).map (·.taskId) =
    taskIds (executableTasks translations)

/-- The translations of tasks. -/
theorem translateTasks_eq_ok {translations : List TaskTranslation}
    (translated : translateTasks request context policy used tasks = .ok translations) :
    TranslatesTasks request policy used tasks translations := by
  induction tasks generalizing used translations with
  | nil =>
      cases translated
      exact ⟨by simp [soleIds, soleMatches], fun _ => rfl, rfl, rfl⟩
  | cons task rest ih =>
      simp only [translateTasks, bind_eq_ok_iff, pure_eq_ok_iff] at translated
      obtain ⟨first, isFirst, later, areLater, rfl⟩ := translated
      have own := translateTask_eq_ok isFirst
      have others := ih areLater
      refine ⟨?_, fun clean => ?_, ?_, ?_⟩
      · rw [List.flatMap_cons, List.append_eq_nil_iff, own.issues, others.issues, own.used,
          List.forall_mem_cons]
        cases isMatch : soleMatch request.coordinationPlan task with
        | none =>
            have same : soleIds request.coordinationPlan (task :: rest) =
                soleIds request.coordinationPlan rest := by
              rw [soleIds, soleMatches_cons_of_no_match isMatch, soleIds]
            simp [same, and_assoc]
        | some found =>
            have more : soleIds request.coordinationPlan (task :: rest) =
                found.1.assignmentId :: soleIds request.coordinationPlan rest := by
              rw [soleIds, soleMatches_cons_of_match isMatch, List.map_cons, soleIds]
            rw [more, List.nodup_cons, List.forall_mem_cons]
            constructor
            · rintro ⟨⟨clean, unused⟩, cleanRest, distinct, fresh⟩
              have isUnused := unused found rfl
              simp only [Option.map_some, Option.filter_some, isUnused, not_false_eq_true,
                decide_true, if_true, Option.toList_some, List.mem_append, List.mem_singleton,
                not_or] at fresh
              exact ⟨⟨clean, cleanRest⟩, ⟨fun twice => (fresh _ twice).2 rfl, distinct⟩, isUnused,
                fun assignmentId isOne => (fresh assignmentId isOne).1⟩
            · rintro ⟨⟨clean, cleanRest⟩, ⟨apart, distinct⟩, unused, fresh⟩
              refine ⟨⟨clean, fun other same => Option.some.inj same ▸ unused⟩, cleanRest, distinct,
                fun assignmentId isOne => ?_⟩
              have other : assignmentId ≠ found.1.assignmentId := fun same => apart (same ▸ isOne)
              simp [Option.filter_some, unused, fresh assignmentId isOne, other]
      · rw [List.flatMap_cons, List.append_eq_nil_iff] at clean
        rw [List.filter_cons, ← own.translated clean.1, ← others.translated clean.2]
        cases isTranslated : first.translated.isSome <;>
          simp [executableTasks, isTranslated, own.ofTask]
      · have laterIds := others.requests
        cases isTranslated : first.translated with
        | none => simpa [executableTasks, isTranslated] using laterIds
        | some pair =>
            have named := (own.named pair.1 pair.2 isTranslated).1
            simpa [executableTasks, isTranslated, taskIds, named, own.ofTask] using laterIds
      · have laterIds := others.bindings
        cases isTranslated : first.translated with
        | none => simpa [executableTasks, isTranslated] using laterIds
        | some pair =>
            have named := (own.named pair.1 pair.2 isTranslated).2
            simpa [executableTasks, isTranslated, taskIds, named, own.ofTask] using laterIds

end PolicyOS.Orchestration
