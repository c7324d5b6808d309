import PolicyOS.Execution.OperationEffects

/-!
# When a step is completed or failed

The effects of an accepted call say what it did; here is when one is accepted. For
a running step of a sound state only what the caller supplied can be refused: a
time that runs backwards, a result that does not match the attempt, a retry that
does not match its decision. Nothing that follows from the state itself is.
-/

namespace PolicyOS.Execution

open Foundation

variable {plan : ExecutionPlan} {session : ExecutionSession} {state : ExecutionRuntimeState}
  {items : List RuntimeStepState} {item current : RuntimeStepState} {step : ExecutionStep}
  {occurredAt updatedAt : DateTime}

/-! ## Contracts that are built -/

/-- A step result is built exactly from data that passes its check. -/
@[simp] theorem StepResult.accepted_validated_iff {fields : StepResultFields} :
    Accepted (StepResult.validated fields) ↔ fields.consistentStatus = .ok () :=
  accepted_buildChecked_iff

/-- So is an execution result. -/
@[simp] theorem ExecutionResult.accepted_validated_iff {fields : ExecutionResultFields} :
    Accepted (ExecutionResult.validated fields) ↔ fields.consistentResult = .ok () :=
  accepted_buildChecked_iff

/-- So is a transition. -/
@[simp] theorem RuntimeTransition.accepted_validated_iff {fields : RuntimeTransitionFields} :
    Accepted (RuntimeTransition.validated fields) ↔ fields.revisionContract = .ok () :=
  accepted_buildChecked_iff

/-! ## Results of ended steps -/

namespace StatesSound

theorem results_stepIds (sound : StatesSound plan updatedAt items)
    (ended : ∀ item ∈ items, item.status ∈ RuntimeStepStatus.terminal) :
    (items.filterMap (·.result)).map (·.stepId) = items.map (·.stepId) := by
  refine map_key_filterMap fun item present => ?_
  obtain ⟨_, _, own⟩ := sound.sound item present
  exact own.resolved (ended item present)

theorem results_length (sound : StatesSound plan updatedAt items)
    (ended : ∀ item ∈ items, item.status ∈ RuntimeStepStatus.terminal) :
    (items.filterMap (·.result)).length = plan.steps.length := by
  have results := congrArg List.length (sound.results_stepIds ended)
  have listed := sound.listed.length_eq
  rw [List.length_map, List.length_map] at results
  rw [ExecutionPlan.stepIds, List.length_map, List.length_map] at listed
  exact results.trans listed

theorem result_succeeded (sound : StatesSound plan updatedAt items)
    (succeeded : ∀ item ∈ items, item.status = .succeeded) :
    ∀ result ∈ items.filterMap (·.result), result.status = .succeeded := by
  intro result listed
  obtain ⟨item, present, isResult⟩ := List.mem_filterMap.mp listed
  obtain ⟨_, _, own⟩ := sound.sound item present
  obtain ⟨other, isOther, success⟩ := own.valid.succeeded (succeeded item present)
  obtain rfl : other = result := Option.some.inj (isOther.symm.trans isResult)
  exact success

end StatesSound

/-! ## Ending an execution -/

/-- Steps that all succeeded give a succeeded execution, and only they do. -/
theorem finalStatus_eq_succeeded_iff :
    finalStatus plan items = .succeeded ↔ ∀ item ∈ items, item.status = .succeeded := by
  have successful : (∀ item ∈ items, item.status = .succeeded) →
      ∀ statuses, RuntimeStepStatus.succeeded ∉ statuses →
        ¬ someRequired plan items statuses := by
    rintro succeeded statuses unlisted ⟨item, present, _, listed⟩
    exact unlisted (succeeded item present ▸ listed)
  unfold finalStatus
  constructor
  · intro final
    split at final
    · cases final
    · split at final
      · cases final
      · split at final
        · cases final
        · rename_i unfailed
          push Not at unfailed
          exact unfailed
  · intro succeeded
    have none : ¬ ∃ item ∈ items, item.status ≠ .succeeded := by
      push Not
      exact succeeded
    rw [if_neg (successful succeeded _ (by decide)), if_neg (successful succeeded _ (by decide)),
      if_neg none]

/-- Once its steps have been advanced soundly, an execution can always be finished: the
result of an ended one passes its own checks. -/
theorem finishIfTerminal_accepted {failure : Option ExecutionError}
    (planned : state.executionId = plan.executionId ∧ state.planId = plan.planId)
    (steps : StatesSound plan updatedAt state.stepStates) (clock : state.startedAt ≤ occurredAt)
    (faulty : failure ≠ none → ∃ item ∈ state.stepStates, item.status ≠ .succeeded) :
    Accepted (finishIfTerminal plan state session occurredAt failure) := by
  unfold finishIfTerminal
  split
  · rename_i ended
    have terminal := (finalStatus_spec plan state.stepStates false).1
    have results := steps.results_stepIds ended
    have distinct := results ▸ steps.distinct
    have succeeded := steps.result_succeeded
    simp only [accepted_bind_iff, exists_unit_iff, buildExecutionResult, bind_eq_ok_iff,
      ExecutionRuntimeState.validatePlan, rejectIf_eq_ok_iff, not_or, not_not]
    have built : Accepted (ExecutionResult.validated
        { executionId := plan.executionId
          planId := plan.planId
          status := finalStatus plan state.stepStates
          stepResults := state.stepStates.filterMap (·.result)
          finalOutput := .null
          startedAt := state.startedAt
          completedAt := some occurredAt
          error :=
            if finalStatus plan state.stepStates ∈ [ExecutionStatus.failed, .timedOut] ∧
                failure = none then
              some requiredStepFailed
            else failure }) := by
      simp only [ExecutionResult.accepted_validated_iff, ExecutionResultFields.consistentResult,
        bind_eq_ok_iff, exists_unit_iff, rejectIf_eq_ok_iff, not_not, not_and, not_or, not_exists,
        Option.mem_def, Option.some.injEq, finalStatus_eq_succeeded_iff]
      refine ⟨distinct, fun _ => by rintro ⟨⟩, ?_, fun all => ⟨?_, succeeded all⟩, fun failed => ?_⟩
      · rintro _ rfl
        exact not_lt.mpr clock
      · have success : finalStatus plan state.stepStates = .succeeded :=
          finalStatus_eq_succeeded_iff.mpr all
        have unfailed : failure = none := by
          by_contra present
          obtain ⟨item, listed, unsuccessful⟩ := faulty present
          exact unsuccessful (all item listed)
        rw [success, if_neg fun both => absurd both.1 (by decide), unfailed]
      · by_cases missing : failure = none
        · rw [if_pos ⟨failed, missing⟩]
          exact Option.some_ne_none _
        · rw [if_neg fun both => missing both.2]
          exact missing
    obtain ⟨result, isBuilt⟩ := built
    have listed := And.intro steps.listed.subset steps.listed.symm.subset
    exact ⟨result, ⟨⟨planned, listed⟩, terminal, steps.results_length ended, isBuilt⟩,
      accepted_ok⟩
  · exact accepted_ok

/-- What follows the last change of a step is accepted whenever finishing is. -/
theorem accepted_of_finished {finish : Finish} {occurredAt : DateTime} {revision : Nat}
    {failure : Option ExecutionError} {events : List RuntimeEvent}
    (finished : finishIfTerminal plan state session occurredAt failure = .ok finish)
    (next : state.revision = revision + 1) :
    Accepted (RuntimeTransition.validated
      { previousRevision := revision
        state := finish.state
        session := updateSession finish.session (revision + 1) occurredAt
          finish.session.completedAt
        events := events
        executionResult := finish.result }) := by
  simp only [RuntimeTransition.accepted_validated_iff, RuntimeTransitionFields.revisionContract,
    rejectIf_eq_ok_iff, not_or, not_not, Bool.false_eq_true, if_false]
  cases finishIfTerminal_spec finished with
  | goesOn => exact ⟨next, next.symm⟩
  | ends => exact ⟨next, next.symm⟩

/-! ## The two operations -/

namespace RuntimeSound

theorem planned_state (sound : RuntimeSound plan session state) :
    state.executionId = plan.executionId ∧ state.planId = plan.planId :=
  ⟨sound.identity.2.1.symm.trans sound.planned.1, sound.identity.2.2.symm.trans sound.planned.2⟩

/-- Nothing in the state refuses a successful result of a running step. -/
theorem completeRunning_accepted (sound : RuntimeSound plan session state) {result : StepResult}
    (later : state.updatedAt ≤ occurredAt) (isCurrent : current ∈ state.stepStates)
    (runs : current.status = .running) (success : result.status = .succeeded)
    (own : result.stepId = current.stepId) :
    Accepted (completeRunning session plan state current result occurredAt state.revision) := by
  obtain ⟨step, isStep, itsOwn⟩ := sound.steps.sound current isCurrent
  have advances : StepAdvance step occurredAt current (current.succeeded result occurredAt) :=
    .succeeded runs success own
  have replaced : StatesSound plan occurredAt (replaceState state
      (current.succeeded result occurredAt) (state.revision + 1) occurredAt).stepStates :=
    sound.steps.replaced later isCurrent isStep itsOwn.stepId.symm advances nofun
  obtain ⟨finish, finished⟩ : Accepted (finishIfTerminal plan
      (refreshReady plan (replaceState state (current.succeeded result occurredAt)
        (state.revision + 1) occurredAt) occurredAt).1 session occurredAt none) :=
    finishIfTerminal_accepted sound.planned_state (replaced.refreshed le_rfl)
      (sound.clock.trans later) fun absent => absurd rfl absent
  rw [completeRunning, accepted_bind_iff]
  exact ⟨finish, finished, accepted_of_finished finished rfl⟩

/-- A result completes a running step exactly when time does not run backwards, it is a
success, and it has the times and the number of the attempt. -/
theorem completeStep_accepted_iff (sound : RuntimeSound plan session state) {result : StepResult}
    (isCurrent : current ∈ state.stepStates ∧ current.stepId = result.stepId)
    (runs : current.status = .running) :
    Accepted (completeStep session plan state result occurredAt state.revision) ↔
      state.updatedAt ≤ occurredAt ∧ result.status = .succeeded ∧
        (result.startedAt = current.startedAt ∧ result.completedAt = some occurredAt) ∧
        result.attemptCount = current.attemptCount := by
  have found : stateOf state result.stepId = .ok current :=
    (stateOf_eq_ok_iff sound.steps.distinct).mpr isCurrent
  have unended : current.status ∉ RuntimeStepStatus.terminal := runs ▸ by decide
  simp only [completeStep, requireTransitionTime, accepted_bind_iff, exists_unit_iff,
    rejectIf_eq_ok_iff, not_lt, sound.validateStateScope_eq_ok_iff, found, Except.ok.injEq,
    exists_eq_left', true_and]
  rw [if_neg unended]
  simp only [accepted_bind_iff, exists_unit_iff, rejectIf_eq_ok_iff, not_or, not_not, runs,
    true_and]
  refine and_congr_right fun later => and_congr_right fun success =>
    and_congr_right fun _ => and_iff_left_of_imp fun _ => ?_
  exact sound.completeRunning_accepted later isCurrent.1 runs success isCurrent.2.symm

/-- Nothing in the state refuses the failure of a running step. -/
theorem failRunning_accepted (sound : RuntimeSound plan session state)
    (later : state.updatedAt ≤ occurredAt) (isCurrent : current ∈ state.stepStates)
    (runs : current.status = .running) (error : ExecutionError) :
    Accepted (failRunning session plan state current error occurredAt state.revision) := by
  obtain ⟨_, _, own⟩ := sound.steps.sound current isCurrent
  obtain ⟨startedAt, isStart⟩ := Option.ne_none_iff_exists'.mp (own.valid.running runs).1
  have begun : startedAt ≤ occurredAt := (own.begun startedAt isStart).trans later
  have built : Accepted (StepResult.validated
      { stepId := current.stepId
        status := if error.category = .timeout then .timedOut else .failed
        startedAt := current.startedAt
        completedAt := some occurredAt
        error := some error
        attemptCount := current.attemptCount }) := by
    rw [StepResult.accepted_validated_iff, isStart]
    split <;> simp [StepResultFields.consistentStatus, rejectIf, not_lt.mpr begun, Bind.bind,
      Except.bind]
  obtain ⟨result, isResult⟩ := built
  have fields := StepResult.validated_eq_ok_iff.mp isResult
  have same : result.stepId = current.stepId := by rw [fields]
  have replaced : StatesSound plan occurredAt (replaceState state
      (current.failed error result occurredAt) (state.revision + 1) occurredAt).stepStates :=
    (sound.advance_failed error later isCurrent runs same).2
  obtain ⟨items, propagates, settles⟩ := replaced.propagate occurredAt
  have faulty : ∃ item ∈ items, item.status ≠ .succeeded := by
    obtain ⟨next, isNext, _, _, _, rfl⟩ :=
      exists_rewritten_of_mem settles (replacement_mem isCurrent rfl)
    have failedStatus : (current.failed error result occurredAt).status ∈
          RuntimeStepStatus.terminal ∧
        (current.failed error result occurredAt).status ≠ .succeeded := by
      rw [RuntimeStepState.failed_status]
      split <;> decide
    refine ⟨_, isNext, ?_⟩
    rw [settled_advance.of_terminal failedStatus.1]
    exact failedStatus.2
  obtain ⟨finish, finished⟩ : Accepted (finishIfTerminal plan
      { state with
        stepStates := items, revision := state.revision + 1, updatedAt := occurredAt }
      session occurredAt (some error)) :=
    finishIfTerminal_accepted sound.planned_state (settles.statesSound replaced le_rfl)
      (sound.clock.trans later) fun _ => faulty
  simp only [failRunning, accepted_bind_iff]
  exact ⟨result, isResult, _, propagates, finish, finished, accepted_of_finished finished rfl⟩

/-- A failure of a running step is accepted exactly when time does not run backwards and,
for a retry, when another attempt is left at the time the decision says. -/
theorem failStep_accepted_iff (sound : RuntimeSound plan session state) {stepId : String}
    (isStep : step ∈ plan.steps ∧ step.stepId = stepId)
    (isCurrent : current ∈ state.stepStates ∧ current.stepId = stepId)
    (runs : current.status = .running) {error : ExecutionError} {retryDecision : RetryDecision}
    {nextRetryAt : Option DateTime} :
    Accepted (failStep session plan state stepId error occurredAt retryDecision nextRetryAt
      state.revision) ↔
      state.updatedAt ≤ occurredAt ∧ (retryDecision.retry →
        current.attemptCount < step.retryPolicy.maxAttempts ∧
          nextRetryAt = some (occurredAt + retryDecision.delayMs.val * 1000)) := by
  have foundState : stateOf state stepId = .ok current :=
    (stateOf_eq_ok_iff sound.steps.distinct).mpr isCurrent
  have foundStep : stepOf plan stepId = .ok step := stepOf_eq_ok_iff.mpr isStep
  simp only [failStep, requireTransitionTime, accepted_bind_iff, exists_unit_iff,
    rejectIf_eq_ok_iff, not_lt, not_not, sound.validateStateScope_eq_ok_iff, foundState, foundStep,
    Except.ok.injEq, exists_eq_left', true_and, runs]
  refine and_congr_right fun later => ?_
  by_cases retries : retryDecision.retry
  · simp only [retries, if_true, retryRunning, accepted_bind_iff, exists_unit_iff,
      rejectIf_eq_ok_iff, not_or, not_not, ge_iff_le, not_le, forall_const,
      RuntimeTransition.accepted_validated_iff, RuntimeTransitionFields.revisionContract]
    constructor
    · rintro ⟨⟨room, _⟩, delayed, _⟩
      exact ⟨room, delayed⟩
    · rintro ⟨room, rfl⟩
      exact ⟨⟨room, Option.some_ne_none _⟩, rfl, rfl, rfl⟩
  · rw [if_neg retries]
    exact iff_of_true (sound.failRunning_accepted later isCurrent.1 runs error)
      fun decided => absurd decided retries

end RuntimeSound

end PolicyOS.Execution
