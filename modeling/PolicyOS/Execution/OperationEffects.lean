import PolicyOS.Execution.RuntimeInvariant

/-!
# What an accepted operation did

For every operation, a structure of what its acceptance tells: the guards it
passed and what it answers. Each is read back once from the definition of the
operation; every later result about an accepted call uses its fields.
-/

namespace PolicyOS.Execution

open Foundation

variable {plan : ExecutionPlan} {session : ExecutionSession} {context : ExecutionContext}
  {state : ExecutionRuntimeState} {transition : RuntimeTransition} {occurredAt : DateTime}
  {expectedRevision : Nat}

/-! ## Ending an execution -/

theorem finalStatus_spec (plan : ExecutionPlan) (items : List RuntimeStepState) (requested : Bool) :
    finalStatus plan items ∈ ExecutionStatus.terminal ∧
      sessionStatusOf (finalStatus plan items) =
        sessionStatusFor requested (finalStatus plan items) := by
  unfold finalStatus
  split
  · decide +revert
  · split
    · decide +revert
    · split <;> decide +revert

theorem buildExecutionResult_status {finalOutput : JsonValue} {result : ExecutionResult}
    (built : buildExecutionResult plan state finalOutput occurredAt = .ok result) :
    result.status = state.status := by
  simp only [buildExecutionResult, bind_eq_ok_iff, exists_unit_iff,
    ExecutionResult.validated_eq_ok_iff] at built
  rw [built.2.2.2]

/-- A finished execution goes on, or has ended with the final status of its steps. -/
inductive Finished (plan : ExecutionPlan) (session : ExecutionSession)
    (state : ExecutionRuntimeState) (occurredAt : DateTime) : Finish → Prop where
  | goesOn (unended : ∃ item ∈ state.stepStates, item.status ∉ RuntimeStepStatus.terminal) :
      Finished plan session state occurredAt ⟨state, session, none⟩
  | ends {failure : Option ExecutionError} {result : ExecutionResult}
      (ended : ∀ item ∈ state.stepStates, item.status ∈ RuntimeStepStatus.terminal)
      (status : result.status = finalStatus plan state.stepStates) :
      Finished plan session state occurredAt
        ⟨{ state with
            status := finalStatus plan state.stepStates, completedAt := some occurredAt
            failure := failure },
          { session with
            status := sessionStatusOf (finalStatus plan state.stepStates)
            completedAt := some occurredAt },
          some result⟩

variable {finish : Finish} {items : List RuntimeStepState} {stepId : String}
  {current : RuntimeStepState} {result : StepResult}

/-- Read back how `finishIfTerminal` answered. -/
theorem finishIfTerminal_spec {failure : Option ExecutionError}
    (finished : finishIfTerminal plan state session occurredAt failure = .ok finish) :
    Finished plan session state occurredAt finish := by
  unfold finishIfTerminal at finished
  split at finished
  · rename_i ended
    simp only [bind_eq_ok_iff, pure_eq_ok_iff] at finished
    obtain ⟨result, built, rfl⟩ := finished
    exact .ends ended (buildExecutionResult_status built)
  · rename_i unended
    obtain rfl := Except.ok.inj finished
    push Not at unended
    exact .goesOn unended

theorem Finished.stepStates (finished : Finished plan session state occurredAt finish) :
    finish.state.stepStates = state.stepStates := by
  cases finished <;> rfl

/-- With sound step states, finishing advances the execution. -/
theorem Finished.advances
    (finished : Finished plan session
      { state with
        stepStates := items, revision := state.revision + 1, updatedAt := occurredAt }
      occurredAt finish)
    (active : ActiveRuntime session state) (continues : Continues state.stepStates items)
    (steps : StatesSound plan occurredAt items) (propagated : FailuresPropagated plan items) :
    Advances plan session state occurredAt
      (updateSession finish.session (state.revision + 1) occurredAt finish.session.completedAt)
      finish.state := by
  cases finished with
  | goesOn unended =>
      rw [active.unfinished.2]
      exact .moved continues steps propagated unended
  | ends ended _ =>
      obtain ⟨terminal, status⟩ := finalStatus_spec plan items state.cancellationRequested
      rw [status]
      exact .ended continues steps propagated terminal ended

/-! ## Handing out a step -/

/-- A step was handed out for one more attempt. -/
structure DispatchEffect (plan : ExecutionPlan) (session : ExecutionSession)
    (context : ExecutionContext) (state : ExecutionRuntimeState) (stepId : String)
    (dispatchId : UUID) (issuedAt : DateTime) (deadline : Option DateTime) (step : ExecutionStep)
    (current : RuntimeStepState) (request : DispatchRequest) (transition : RuntimeTransition) :
    Prop where
  later : state.updatedAt ≤ issuedAt
  unended : state.status ∉ ExecutionStatus.terminal
  isStep : step ∈ plan.steps ∧ step.stepId = stepId
  isCurrent : current ∈ state.stepStates ∧ current.stepId = stepId
  waits : current.status ∈ RuntimeStepStatus.waiting
  met : allDependenciesSucceeded step state.stepStates
  room : current.attemptCount + 1 ≤ step.retryPolicy.maxAttempts
  requested : request.toDispatchRequestFields =
    { dispatchId := dispatchId
      sessionId := session.sessionId
      executionId := session.executionId
      planId := plan.planId
      stepId := step.stepId
      capabilityId := step.target
      input := step.input
      classification := step.classification
      organizationId := session.organizationId
      actorId := session.actorId
      correlationId := session.correlationId
      causationId := context.causationId
      attempt := current.attemptCount + 1
      timeoutSeconds := step.timeoutSeconds
      deadline := deadline
      issuedAt := issuedAt }
  answers : transition.toRuntimeTransitionFields =
    { previousRevision := state.revision
      state := replaceState state
        (current.dispatched (current.attemptCount + 1) issuedAt dispatchId)
        (state.revision + 1) issuedAt
      session := updateSession session (state.revision + 1) issuedAt none
      events := [event .stepDispatched
        (updateSession session (state.revision + 1) issuedAt none) (state.revision + 1) issuedAt
        (some stepId) (.object [("attempt", .integer ↑(current.attemptCount + 1))])]
      dispatchRequest := some request }

/-- Read back what `create_dispatch_request` did. -/
theorem createDispatchRequest_effect (sound : RuntimeSound plan session state) {dispatchId : UUID}
    {issuedAt : DateTime} {deadline : Option DateTime}
    (accepted : createDispatchRequest session context plan state stepId dispatchId issuedAt deadline
      expectedRevision = .ok transition) :
    ∃ step current request, DispatchEffect plan session context state stepId dispatchId issuedAt
      deadline step current request transition := by
  simp only [createDispatchRequest, validateRuntime, requireTransitionTime, bind_eq_ok_iff,
    exists_unit_iff, rejectIf_eq_ok_iff, not_not, not_lt, gt_iff_lt, stepOf_eq_ok_iff,
    stateOf_eq_ok_iff sound.steps.distinct, sound.validateStateScope_eq_ok_iff,
    DispatchRequest.validated_eq_ok_iff, RuntimeTransition.validated_eq_ok_iff] at accepted
  obtain ⟨⟨_, rfl⟩, later, unended, _, step, isStep, _, _, current, isCurrent, _, ready, room,
    request, requested, answers⟩ := accepted
  obtain ⟨_, other, isOther, same, item, isItem, waits, _, met⟩ := mem_readyStepIds.mp ready
  obtain rfl := plan.step_unique isOther isStep.1 (same.trans isStep.2.symm)
  obtain ⟨present, own⟩ := (statesById_eq_some_iff sound.steps.distinct).mp isItem
  obtain rfl := List.inj_on_of_nodup_map sound.steps.distinct present isCurrent.1
    (own.trans (same.trans isCurrent.2.symm))
  exact ⟨other, item, request,
    { later, unended, isStep, isCurrent, waits, met, room, requested, answers }⟩

/-- Handing out a step advances the execution. -/
theorem DispatchEffect.advances {dispatchId : UUID} {issuedAt : DateTime}
    {deadline : Option DateTime} {step : ExecutionStep} {request : DispatchRequest}
    (effect : DispatchEffect plan session context state stepId dispatchId issuedAt deadline step
      current request transition)
    (sound : RuntimeSound plan session state) :
    Advances plan session state issuedAt transition.session transition.state := by
  have own := effect.isStep.2.trans effect.isCurrent.2.symm
  have advances : StepAdvance step issuedAt current
      (current.dispatched (current.attemptCount + 1) issuedAt dispatchId) :=
    .dispatched effect.waits effect.room
  rw [effect.answers]
  refine .moved ?_ ?_ ?_ ?_
  · exact (sound.steps.advance_replaced effect.isCurrent.1 effect.isStep.1 own advances).continues
  · exact sound.steps.replaced effect.later effect.isCurrent.1 effect.isStep.1 own advances
      fun _ => effect.met
  · exact sound.steps.replaced_failuresPropagated sound.propagated effect.isCurrent.1
      effect.isStep.1 own advances (by simp [RuntimeStepStatus.failedStatuses])
  · exact ⟨_, replacement_mem effect.isCurrent.1 advances.stepId,
      by simp [RuntimeStepStatus.terminal]⟩

/-! ## Completing a step -/

/-- A running step was completed with its successful result. -/
structure CompletionEffect (plan : ExecutionPlan) (session : ExecutionSession)
    (state : ExecutionRuntimeState) (result : StepResult) (occurredAt : DateTime)
    (current : RuntimeStepState) (finish : Finish) (transition : RuntimeTransition) : Prop where
  later : state.updatedAt ≤ occurredAt
  isCurrent : current ∈ state.stepStates ∧ current.stepId = result.stepId
  runs : current.status = .running
  success : result.status = .succeeded
  timing : result.startedAt = current.startedAt ∧ result.completedAt = some occurredAt
  attempt : result.attemptCount = current.attemptCount
  finished : finishIfTerminal plan
    (refreshReady plan (replaceState state (current.succeeded result occurredAt)
      (state.revision + 1) occurredAt) occurredAt).1 session occurredAt none = .ok finish
  answers : transition.toRuntimeTransitionFields =
    { previousRevision := state.revision
      state := finish.state
      session := updateSession finish.session (state.revision + 1) occurredAt
        finish.session.completedAt
      events := stepEvent .stepSucceeded
          (updateSession finish.session (state.revision + 1) occurredAt
            finish.session.completedAt) (state.revision + 1) occurredAt result.stepId ::
        (refreshReady plan (replaceState state (current.succeeded result occurredAt)
          (state.revision + 1) occurredAt) occurredAt).2.map
            (stepEvent .stepReady (updateSession finish.session (state.revision + 1) occurredAt
              finish.session.completedAt) (state.revision + 1) occurredAt) ++
        finish.result.toList.map fun _ =>
          executionEvent .executionCompleted
            (updateSession finish.session (state.revision + 1) occurredAt
              finish.session.completedAt) (state.revision + 1) occurredAt
      executionResult := finish.result }

/-- An answer that was given before was given again. -/
structure RepetitionEffect (session : ExecutionSession) (state : ExecutionRuntimeState)
    (transition : RuntimeTransition) : Prop where
  answers : transition.toRuntimeTransitionFields =
    { previousRevision := state.revision
      state := state
      session := session
      idempotent := true }

/-- Read back what `complete_step` did. -/
theorem completeStep_effect (sound : RuntimeSound plan session state)
    (accepted : completeStep session plan state result occurredAt expectedRevision =
      .ok transition) :
    (∃ item ∈ state.stepStates, item.stepId = result.stepId ∧
        item.status ∈ RuntimeStepStatus.terminal ∧ RepetitionEffect session state transition) ∨
      ∃ current finish,
        CompletionEffect plan session state result occurredAt current finish transition := by
  simp only [completeStep, requireTransitionTime, bind_eq_ok_iff, exists_unit_iff,
    rejectIf_eq_ok_iff, not_lt, stateOf_eq_ok_iff sound.steps.distinct,
    sound.validateStateScope_eq_ok_iff] at accepted
  obtain ⟨rfl, later, current, isCurrent, accepted⟩ := accepted
  split at accepted
  · rename_i ended
    split at accepted
    · rw [RuntimeTransition.validated_eq_ok_iff] at accepted
      exact .inl ⟨current, isCurrent.1, isCurrent.2, ended, ⟨accepted⟩⟩
    · cases accepted
  · simp only [completeRunning, bind_eq_ok_iff, exists_unit_iff, rejectIf_eq_ok_iff, not_or,
      not_not, RuntimeTransition.validated_eq_ok_iff] at accepted
    obtain ⟨runs, success, timing, attempt, finish, finished, answers⟩ := accepted
    exact .inr ⟨current, finish,
      { later, isCurrent, runs, success, timing, attempt, finished, answers }⟩

/-- Completing a step advances it. -/
theorem CompletionEffect.replaced_advance
    (effect : CompletionEffect plan session state result occurredAt current finish transition)
    (sound : RuntimeSound plan session state) :
    StatesAdvance plan occurredAt state.stepStates
        (state.stepStates.map (replacedBy (current.succeeded result occurredAt))) ∧
      StatesSound plan occurredAt
        (state.stepStates.map (replacedBy (current.succeeded result occurredAt))) ∧
      FailuresPropagated plan
        (state.stepStates.map (replacedBy (current.succeeded result occurredAt))) := by
  obtain ⟨step, isStep, own⟩ := sound.steps.sound current effect.isCurrent.1
  have advances : StepAdvance step occurredAt current (current.succeeded result occurredAt) :=
    .succeeded effect.runs effect.success effect.isCurrent.2.symm
  exact ⟨sound.steps.advance_replaced effect.isCurrent.1 isStep own.stepId.symm advances,
    sound.steps.replaced effect.later effect.isCurrent.1 isStep own.stepId.symm advances
      (fun runs => by cases runs),
    sound.steps.replaced_failuresPropagated sound.propagated effect.isCurrent.1 isStep
      own.stepId.symm advances (by simp [RuntimeStepStatus.failedStatuses])⟩

theorem CompletionEffect.replaced_sound
    (effect : CompletionEffect plan session state result occurredAt current finish transition)
    (sound : RuntimeSound plan session state) :
    StatesSound plan occurredAt (replaceState state (current.succeeded result occurredAt)
      (state.revision + 1) occurredAt).stepStates :=
  (effect.replaced_advance sound).2.1

/-- Completing a step advances the execution. -/
theorem CompletionEffect.advances
    (effect : CompletionEffect plan session state result occurredAt current finish transition)
    (sound : RuntimeSound plan session state) :
    Advances plan session state occurredAt transition.session transition.state := by
  obtain ⟨advance, _, propagated⟩ := effect.replaced_advance sound
  have steps := effect.replaced_sound sound
  have active := sound.active_of_unended effect.isCurrent.1 (effect.runs ▸ by decide)
  rw [effect.answers]
  exact (finishIfTerminal_spec effect.finished).advances active
    (advance.continues.trans steps.advance_refreshed.continues)
    (steps.refreshed le_rfl) (steps.refreshed_failuresPropagated propagated)

/-! ## Failing a step -/

/-- A running step failed and was scheduled for another attempt. -/
structure RetryEffect (plan : ExecutionPlan) (session : ExecutionSession)
    (state : ExecutionRuntimeState) (stepId : String) (error : ExecutionError)
    (occurredAt : DateTime) (nextRetryAt : Option DateTime) (step : ExecutionStep)
    (current : RuntimeStepState) (transition : RuntimeTransition) : Prop where
  later : state.updatedAt ≤ occurredAt
  isStep : step ∈ plan.steps ∧ step.stepId = stepId
  isCurrent : current ∈ state.stepStates ∧ current.stepId = stepId
  runs : current.status = .running
  room : current.attemptCount < step.retryPolicy.maxAttempts
  answers : transition.toRuntimeTransitionFields =
    { previousRevision := state.revision
      state := replaceState state (current.retryScheduled error nextRetryAt) (state.revision + 1)
        occurredAt
      session := updateSession session (state.revision + 1) occurredAt none
      events := [stepEvent .stepRetryScheduled
        (updateSession session (state.revision + 1) occurredAt none) (state.revision + 1)
        occurredAt current.stepId] }

/-- A running step failed for good. -/
structure FailureEffect (plan : ExecutionPlan) (session : ExecutionSession)
    (state : ExecutionRuntimeState) (stepId : String) (error : ExecutionError)
    (occurredAt : DateTime) (current : RuntimeStepState) (result : StepResult)
    (items : List RuntimeStepState) (finish : Finish) (transition : RuntimeTransition) :
    Prop where
  later : state.updatedAt ≤ occurredAt
  isCurrent : current ∈ state.stepStates ∧ current.stepId = stepId
  runs : current.status = .running
  failedResult : result.stepId = current.stepId ∧
    result.status = if error.category = .timeout then .timedOut else .failed
  settles : SettledStates plan occurredAt
    (state.stepStates.map (replacedBy (current.failed error result occurredAt))) items
  finished : finishIfTerminal plan
    { state with
      stepStates := items, revision := state.revision + 1, updatedAt := occurredAt }
    session occurredAt (some error) = .ok finish
  answers : transition.toRuntimeTransitionFields =
    { previousRevision := state.revision
      state := finish.state
      session := updateSession finish.session (state.revision + 1) occurredAt
        finish.session.completedAt
      events := stepEvent .stepFailed
          (updateSession finish.session (state.revision + 1) occurredAt
            finish.session.completedAt) (state.revision + 1) occurredAt current.stepId ::
        finish.result.toList.map fun result =>
          executionEvent (failureEvent result)
            (updateSession finish.session (state.revision + 1) occurredAt
              finish.session.completedAt) (state.revision + 1) occurredAt
      executionResult := finish.result }

namespace RuntimeSound

variable {step : ExecutionStep} {current : RuntimeStepState} {result : StepResult}

/-- A failed step advances all step states, and is listed as failed. -/
theorem advance_failed (sound : RuntimeSound plan session state) (error : ExecutionError)
    (later : state.updatedAt ≤ occurredAt) (isCurrent : current ∈ state.stepStates)
    (runs : current.status = .running) (own : result.stepId = current.stepId) :
    Continues state.stepStates
        (state.stepStates.map (replacedBy (current.failed error result occurredAt))) ∧
      StatesSound plan occurredAt
        (state.stepStates.map (replacedBy (current.failed error result occurredAt))) := by
  obtain ⟨step, isStep, itsOwn⟩ := sound.steps.sound current isCurrent
  have advances : StepAdvance step occurredAt current (current.failed error result occurredAt) :=
    .failed runs own
  have unstarted : (current.failed error result occurredAt).status ≠ .running := by
    rw [RuntimeStepState.failed_status]
    split <;> decide
  exact ⟨(sound.steps.advance_replaced isCurrent isStep itsOwn.stepId.symm advances).continues,
    sound.steps.replaced later isCurrent isStep itsOwn.stepId.symm advances
      fun starts => absurd starts unstarted⟩

end RuntimeSound

/-- Read back what `fail_step` did. -/
theorem failStep_effect (sound : RuntimeSound plan session state) {error : ExecutionError}
    {retryDecision : RetryDecision} {nextRetryAt : Option DateTime}
    (accepted : failStep session plan state stepId error occurredAt retryDecision nextRetryAt
      expectedRevision = .ok transition) :
    (∃ step current, RetryEffect plan session state stepId error occurredAt nextRetryAt step
        current transition) ∨
      ∃ current result items finish, FailureEffect plan session state stepId error occurredAt
        current result items finish transition := by
  simp only [failStep, requireTransitionTime, bind_eq_ok_iff, exists_unit_iff,
    rejectIf_eq_ok_iff, not_lt, not_not, stateOf_eq_ok_iff sound.steps.distinct,
    stepOf_eq_ok_iff, sound.validateStateScope_eq_ok_iff] at accepted
  obtain ⟨rfl, later, current, isCurrent, step, isStep, runs, accepted⟩ := accepted
  split at accepted
  · simp only [retryRunning, bind_eq_ok_iff, exists_unit_iff, rejectIf_eq_ok_iff, not_or,
      not_le, ge_iff_le, RuntimeTransition.validated_eq_ok_iff] at accepted
    obtain ⟨⟨room, _⟩, _, answers⟩ := accepted
    exact .inl ⟨step, current, { later, isStep, isCurrent, runs, room, answers }⟩
  · simp only [failRunning, bind_eq_ok_iff, StepResult.validated_eq_ok_iff,
      RuntimeTransition.validated_eq_ok_iff] at accepted
    obtain ⟨result, fields, settled, isSettled, finish, finished, answers⟩ := accepted
    have failedResult : result.stepId = current.stepId ∧
        result.status = if error.category = .timeout then .timedOut else .failed := by
      rw [fields]
      exact ⟨rfl, rfl⟩
    have replaced : StatesSound plan occurredAt (replaceState state
        (current.failed error result occurredAt) (state.revision + 1) occurredAt).stepStates :=
      (sound.advance_failed error later isCurrent.1 runs failedResult.1).2
    obtain ⟨items, propagates, settles⟩ := replaced.propagate occurredAt
    obtain rfl := Except.ok.inj (isSettled.symm.trans propagates)
    exact .inr ⟨current, result, items, finish,
      { later, isCurrent, runs, failedResult, settles, finished, answers }⟩

/-- A scheduled retry advances the execution. -/
theorem RetryEffect.advances {error : ExecutionError} {nextRetryAt : Option DateTime}
    {step : ExecutionStep}
    (effect : RetryEffect plan session state stepId error occurredAt nextRetryAt step current
      transition)
    (sound : RuntimeSound plan session state) :
    Advances plan session state occurredAt transition.session transition.state := by
  have own := effect.isStep.2.trans effect.isCurrent.2.symm
  have advances : StepAdvance step occurredAt current (current.retryScheduled error nextRetryAt) :=
    .retryScheduled effect.runs effect.room
  rw [effect.answers]
  refine .moved ?_ ?_ ?_ ?_
  · exact (sound.steps.advance_replaced effect.isCurrent.1 effect.isStep.1 own advances).continues
  · exact sound.steps.replaced effect.later effect.isCurrent.1 effect.isStep.1 own advances
      fun runs => by cases runs
  · exact sound.steps.replaced_failuresPropagated sound.propagated effect.isCurrent.1
      effect.isStep.1 own advances (by simp [RuntimeStepStatus.failedStatuses])
  · exact ⟨_, replacement_mem effect.isCurrent.1 advances.stepId,
      by simp [RuntimeStepStatus.terminal]⟩

/-- A failure for good advances the execution. -/
theorem FailureEffect.advances {error : ExecutionError}
    (effect : FailureEffect plan session state stepId error occurredAt current result items finish
      transition)
    (sound : RuntimeSound plan session state) :
    Advances plan session state occurredAt transition.session transition.state := by
  obtain ⟨continues, replaced⟩ := sound.advance_failed error effect.later effect.isCurrent.1
    effect.runs effect.failedResult.1
  have steps := effect.settles.statesSound replaced le_rfl
  have active := sound.active_of_unended effect.isCurrent.1 (effect.runs ▸ by decide)
  rw [effect.answers]
  exact (finishIfTerminal_spec effect.finished).advances active
    (continues.trans effect.settles.advance.continues) steps
    (effect.settles.failuresPropagated steps)

/-! ## Cancelling -/

/-- A cancellation was requested for the first time. -/
structure RequestEffect (session : ExecutionSession) (state : ExecutionRuntimeState)
    (requestedAt : DateTime) (transition : RuntimeTransition) : Prop where
  later : state.updatedAt ≤ requestedAt
  unended : state.status ∉ ExecutionStatus.terminal
  answers : transition.toRuntimeTransitionFields =
    { previousRevision := state.revision
      state :=
        { state with
          revision := state.revision + 1, updatedAt := requestedAt, cancellationRequested := true }
      session :=
        { session with
          status := .cancelling, cancellationRequestedAt := some requestedAt
          updatedAt := requestedAt, runtimeRevision := state.revision + 1 }
      events := [executionEvent .cancellationRequested
        { session with
          status := .cancelling, cancellationRequestedAt := some requestedAt
          updatedAt := requestedAt, runtimeRevision := state.revision + 1 }
        (state.revision + 1) requestedAt] }

/-- Every step that had not ended was cancelled, and the execution with them. -/
structure CancellationEffect (plan : ExecutionPlan) (session : ExecutionSession)
    (state : ExecutionRuntimeState) (occurredAt : DateTime) (items : List RuntimeStepState)
    (result : ExecutionResult) (transition : RuntimeTransition) : Prop where
  later : state.updatedAt ≤ occurredAt
  unended : state.status ∉ ExecutionStatus.terminal
  cancelled : collectEach (cancelStep occurredAt) state.stepStates = .ok items
  answers : transition.toRuntimeTransitionFields =
    { previousRevision := state.revision
      state :=
        { state with
          revision := state.revision + 1, status := .cancelled, stepStates := items
          updatedAt := occurredAt, completedAt := some occurredAt }
      session :=
        { session with
          status := .cancelled, updatedAt := occurredAt, completedAt := some occurredAt
          runtimeRevision := state.revision + 1 }
      events := [executionEvent .executionCancelled
        { session with
          status := .cancelled, updatedAt := occurredAt, completedAt := some occurredAt
          runtimeRevision := state.revision + 1 }
        (state.revision + 1) occurredAt]
      executionResult := some result }

theorem requestCancellation_effect {requestedAt : DateTime}
    (accepted : requestCancellation session state requestedAt expectedRevision = .ok transition) :
    RepetitionEffect session state transition ∨
      RequestEffect session state requestedAt transition := by
  simp only [requestCancellation, requireRevision, requireTransitionTime, bind_eq_ok_iff,
    exists_unit_iff, rejectIf_eq_ok_iff, not_lt, not_not] at accepted
  obtain ⟨rfl, _, later, unended, accepted⟩ := accepted
  split at accepted
  · exact .inl ⟨RuntimeTransition.validated_eq_ok_iff.mp accepted⟩
  · exact .inr ⟨later, unended, RuntimeTransition.validated_eq_ok_iff.mp accepted⟩

theorem applyCancellation_effect (sound : RuntimeSound plan session state)
    (accepted : applyCancellation session plan state occurredAt expectedRevision =
      .ok transition) :
    ∃ items result,
      CancellationEffect plan session state occurredAt items result transition := by
  simp only [applyCancellation, requireTransitionTime, bind_eq_ok_iff, exists_unit_iff,
    rejectIf_eq_ok_iff, not_lt, sound.validateStateScope_eq_ok_iff,
    RuntimeTransition.validated_eq_ok_iff] at accepted
  obtain ⟨rfl, later, unended, _, items, cancelled, result, _, answers⟩ := accepted
  exact ⟨items, result, { later, unended, cancelled, answers }⟩

theorem RequestEffect.advances {requestedAt : DateTime}
    (effect : RequestEffect session state requestedAt transition) (plan : ExecutionPlan) :
    Advances plan session state requestedAt transition.session transition.state := by
  rw [effect.answers]
  exact .requested

/-- An applied cancellation advances the execution. -/
theorem CancellationEffect.advances {result : ExecutionResult}
    (effect : CancellationEffect plan session state occurredAt items result transition)
    (sound : RuntimeSound plan session state) :
    Advances plan session state occurredAt transition.session transition.state := by
  have steps := sound.steps.cancelled effect.later effect.cancelled
  have terminal : ExecutionStatus.cancelled ∈ ExecutionStatus.terminal := by decide
  have ended : ∀ item ∈ items, item.status ∈ RuntimeStepStatus.terminal := fun _ present =>
    StatesSound.terminal_of_cancelled effect.cancelled present
  rw [effect.answers]
  exact .ended (sound.steps.advance_cancelled effect.cancelled).continues steps
    (fun _ _ item present _ _ => ended item present) terminal ended

/-! ## Initialising -/

/-- An execution was started. -/
structure InitializationEffect (plan : ExecutionPlan) (session : ExecutionSession)
    (startedAt : DateTime) (transition : RuntimeTransition) : Prop where
  planned : session.executionId = plan.executionId ∧ session.planId = plan.planId
  later : session.createdAt ≤ startedAt
  created : session.status = .created
  fresh : transition.idempotent = false
  undispatched : transition.dispatchRequest = none
  newSession : transition.session =
    { session with
      status := .running, startedAt := some startedAt, updatedAt := startedAt
      runtimeRevision := session.runtimeRevision + 1 }
  newState : transition.state =
    { sessionId := session.sessionId
      executionId := session.executionId
      planId := session.planId
      revision := session.runtimeRevision + 1
      status := .running
      stepStates := (plan.steps.insertionSort notAfterInPlan).map (initialStepState startedAt)
      startedAt := startedAt
      updatedAt := startedAt }

/-- Read back what `initialize_runtime` did. -/
theorem initializeRuntime_effect {startedAt : DateTime}
    (accepted : initializeRuntime session plan context startedAt expectedRevision =
      .ok transition) :
    InitializationEffect plan session startedAt transition := by
  simp only [initializeRuntime, requireRevision, ExecutionSession.validateScope, bind_eq_ok_iff,
    exists_unit_iff, rejectIf_eq_ok_iff, not_lt, not_or, not_not,
    RuntimeTransition.validated_eq_ok_iff] at accepted
  obtain ⟨rfl, ⟨⟨sameExecution, _, samePlan, _⟩, _⟩, later, created, _, _, answers⟩ := accepted
  exact
    { planned := ⟨sameExecution, samePlan⟩
      later
      created
      fresh := by rw [answers]
      undispatched := by rw [answers]
      newSession := by rw [answers]
      newState := by rw [answers] }

theorem initialStepState_spec (startedAt : DateTime) (step : ExecutionStep) :
    (initialStepState startedAt step).status ∈ RuntimeStepStatus.waiting ∧
      StepSound step startedAt (initialStepState startedAt step) := by
  have waits : (initialStepState startedAt step).status ∈ RuntimeStepStatus.waiting := by
    unfold initialStepState
    by_cases independent : step.dependencies = [] <;>
      simp [independent, RuntimeStepStatus.waiting]
  exact ⟨waits, .of_waiting _ rfl rfl waits rfl step.retryPolicy.bounds.1.1
    fun _ started => nomatch started⟩

/-- The first states of all steps. -/
theorem initialStates_sound (plan : ExecutionPlan) (startedAt : DateTime) :
    StatesSound plan startedAt
      ((plan.steps.insertionSort notAfterInPlan).map (initialStepState startedAt)) where
  listed := by
    rw [List.map_map]
    exact (List.perm_insertionSort notAfterInPlan plan.steps).map _
  sound := by
    intro item present
    obtain ⟨step, isStep, rfl⟩ := List.mem_map.mp present
    exact ⟨step, (List.mem_insertionSort _).mp isStep, (initialStepState_spec startedAt step).2⟩
  met := by
    intro _ _ item present _ runs
    obtain ⟨step, _, rfl⟩ := List.mem_map.mp present
    exact absurd (runs ▸ (initialStepState_spec startedAt step).1) (by decide)

theorem initialStates_propagated (plan : ExecutionPlan) (startedAt : DateTime) :
    FailuresPropagated plan
      ((plan.steps.insertionSort notAfterInPlan).map (initialStepState startedAt)) := by
  intro step _ item _ _ failed
  obtain ⟨_, _, other, isOther, _, otherFailed⟩ :=
    (hasFailedRequiredDependency_iff (initialStates_sound plan startedAt).distinct).mp failed
  obtain ⟨origin, _, rfl⟩ := List.mem_map.mp isOther
  exact absurd ((RuntimeStepStatus.mem_terminal_iff _).mpr (.inr otherFailed))
    (RuntimeStepStatus.not_terminal_of_waiting (initialStepState_spec startedAt origin).1)

/-- A started execution satisfies the invariant. -/
theorem InitializationEffect.sound {startedAt : DateTime}
    (effect : InitializationEffect plan session startedAt transition)
    (valid : session.lifecycle = .ok ()) :
    RuntimeSound plan transition.session transition.state := by
  simp only [ExecutionSession.lifecycle, bind_eq_ok_iff, exists_unit_iff, rejectIf_eq_ok_iff,
    not_and, not_exists, not_not, not_lt, effect.created] at valid
  obtain ⟨_, _, _, _, unfinished, _, requested⟩ := valid
  obtain ⟨first, rest, isFirst⟩ := List.exists_cons_of_ne_nil plan.steps_ne_nil
  have listed : first ∈ plan.steps.insertionSort notAfterInPlan :=
    (List.mem_insertionSort _).mpr (isFirst ▸ List.mem_cons_self ..)
  rw [effect.newSession, effect.newState]
  exact
    { identity := ⟨rfl, rfl, rfl⟩
      planned := effect.planned
      revision := rfl
      steps := initialStates_sound plan startedAt
      propagated := initialStates_propagated plan startedAt
      created := effect.later
      started := rfl
      clock := le_rfl
      updated := rfl
      requested := requested
      status := rfl
      phase := .inl
        { running := rfl
          unfinished := ⟨rfl, unfinished (by decide)⟩
          unended := ⟨_, List.mem_map_of_mem listed,
            RuntimeStepStatus.not_terminal_of_waiting (initialStepState_spec startedAt first).1⟩ } }

end PolicyOS.Execution
