import PolicyOS.Execution.Progress

/-!
# The event that reports the end

The final status is computed from all steps, but the event that reports it is
chosen by the operation that came last: a completion always reports success, and a
failure always reports failure. The two agree exactly when the required steps that
ended before agree with the last one.
-/

namespace PolicyOS.Execution

open Foundation

variable {plan : ExecutionPlan} {execution : ExecutionRun} {operation : RuntimeOperation}
  {expectedRevision : Nat} {transition : RuntimeTransition} {session : ExecutionSession}
  {state : ExecutionRuntimeState} {items : List RuntimeStepState} {item next : RuntimeStepState}
  {occurredAt : DateTime}

/-- Events that report the end of an execution. -/
def RuntimeEventType.terminal : List RuntimeEventType :=
  [executionCompleted, executionFailed, executionCancelled, executionTimedOut]

/-- The terminal event of a final status. -/
@[mk_iff] structure EventFits (eventType : RuntimeEventType) (status : ExecutionStatus) : Prop where
  completed : eventType = .executionCompleted ↔ status ∈ [.succeeded, .partial_]
  failed : eventType = .executionFailed ↔ status = .failed
  timedOut : eventType = .executionTimedOut ↔ status = .timedOut
  cancelled : eventType = .executionCancelled ↔ status = .cancelled

instance (eventType : RuntimeEventType) (status : ExecutionStatus) :
    Decidable (EventFits eventType status) :=
  decidable_of_iff _ (eventFits_iff eventType status).symm

/-- The terminal events of a transition. -/
def terminalEvents (transition : RuntimeTransition) : List RuntimeEvent :=
  transition.events.filter (·.eventType ∈ RuntimeEventType.terminal)

/-- Exactly one terminal event is emitted, and it fits the final status. -/
def TerminalEventMatches (transition : RuntimeTransition) : Prop :=
  (terminalEvents transition).length = 1 ∧
    ∀ event ∈ terminalEvents transition, EventFits event.eventType transition.state.status

instance (transition : RuntimeTransition) : Decidable (TerminalEventMatches transition) :=
  inferInstanceAs (Decidable (_ ∧ _))

/-- Before the last operation, the required steps agree with the way it ends: all
others succeeded when a step is completed, and some has not succeeded when one
fails. -/
def requiredStepsAgree (plan : ExecutionPlan) (items : List RuntimeStepState) :
    RuntimeOperation → Prop
  | .complete result _ => ∀ item ∈ items, isRequired plan item →
      item.stepId ≠ result.stepId → item.status = .succeeded
  | .fail .. => ∃ item ∈ items, isRequired plan item ∧ item.status ≠ .succeeded
  | _ => True

/-! ## The final status -/

theorem isRequired_congr {first second : RuntimeStepState} (same : first.stepId = second.stepId) :
    isRequired plan first ↔ isRequired plan second := by
  unfold isRequired
  rw [same]

/-- Some required step ended without success. -/
def RequiredFailure (plan : ExecutionPlan) (items : List RuntimeStepState) : Prop :=
  someRequired plan items RuntimeStepStatus.failedStatuses

/-- An execution has failed or timed out exactly when a required step ended without
success. -/
theorem finalStatus_cases (plan : ExecutionPlan) (items : List RuntimeStepState) :
    (finalStatus plan items ∈ [.failed, .timedOut] ∧ RequiredFailure plan items) ∨
      (finalStatus plan items ∈ [.succeeded, .partial_] ∧ ¬ RequiredFailure plan items) := by
  unfold finalStatus
  split
  · rename_i timedOut
    obtain ⟨item, present, required, status⟩ := timedOut
    left
    refine ⟨by decide, item, present, required, ?_⟩
    rw [List.mem_singleton.mp status]
    decide
  · rename_i notTimedOut
    split
    · rename_i failed
      obtain ⟨item, present, required, status⟩ := failed
      left
      refine ⟨by decide, item, present, required, ?_⟩
      revert status
      cases item.status <;> decide
    · rename_i notFailed
      right
      refine ⟨by split <;> decide, ?_⟩
      rintro ⟨item, present, required, status⟩
      have apart : item.status ∈ [RuntimeStepStatus.timedOut] ∨
          item.status ∈ [RuntimeStepStatus.failed, .cancelled, .skipped] := by
        revert status
        cases item.status <;> decide
      rcases apart with timedOut | failed
      · exact notTimedOut ⟨item, present, required, timedOut⟩
      · exact notFailed ⟨item, present, required, failed⟩

theorem eventFits_completed_iff :
    EventFits .executionCompleted (finalStatus plan items) ↔ ¬ RequiredFailure plan items := by
  rcases finalStatus_cases plan items with ⟨status, failure⟩ | ⟨status, success⟩
  · refine iff_of_false ?_ (not_not.mpr failure)
    revert status
    cases finalStatus plan items <;> decide
  · refine iff_of_true ?_ success
    revert status
    cases finalStatus plan items <;> decide

/-- A failure event fits the final status exactly when some required step ended
without success. -/
theorem eventFits_failureEvent_iff {result : ExecutionResult}
    (same : result.status = finalStatus plan items) :
    EventFits (failureEvent result) (finalStatus plan items) ↔ RequiredFailure plan items := by
  rw [failureEvent, same]
  rcases finalStatus_cases plan items with ⟨status, failure⟩ | ⟨status, success⟩
  · refine iff_of_true ?_ failure
    revert status
    cases finalStatus plan items <;> decide
  · refine iff_of_false ?_ success
    revert status
    cases finalStatus plan items <;> decide

/-! ## Which required steps ended without success -/

/-- A refresh after which every step has ended changed nothing. -/
theorem StatesSound.mem_refreshed_iff (sound : StatesSound plan occurredAt state.stepStates)
    (ended : ∀ next ∈ (refreshReady plan state occurredAt).1.stepStates,
      next.status ∈ RuntimeStepStatus.terminal) :
    item ∈ (refreshReady plan state occurredAt).1.stepStates ↔ item ∈ state.stepStates := by
  constructor
  · intro isNext
    exact (sound.mem_or_ready_of_mem_refreshed isNext).resolve_right fun ready =>
      absurd (ready ▸ ended item isNext) (by decide)
  · intro present
    have isNext : Execution.refreshed _ occurredAt item ∈
        (refreshReady plan state occurredAt).1.stepStates :=
      List.mem_map_of_mem present
    rcases refreshed_cases sound.distinct present with kept | ⟨_, readied⟩
    · rwa [kept] at isNext
    · rw [readied] at isNext
      exact absurd (ended _ isNext) (by rw [RuntimeStepState.readied_status]; decide)

variable {result : StepResult} {current : RuntimeStepState}

/-- After a completion that ends the execution, the required steps that ended
without success are those that had not succeeded before. -/
theorem CompletionEffect.requiredFailure_iff {finish : Finish}
    (effect : CompletionEffect plan session state result occurredAt current finish transition)
    (sound : RuntimeSound plan session state)
    (ended : ∀ next ∈ (refreshReady plan (replaceState state (current.succeeded result occurredAt)
      (state.revision + 1) occurredAt) occurredAt).1.stepStates,
      next.status ∈ RuntimeStepStatus.terminal) :
    RequiredFailure plan (refreshReady plan (replaceState state
        (current.succeeded result occurredAt) (state.revision + 1) occurredAt)
          occurredAt).1.stepStates ↔
      ∃ item ∈ state.stepStates, isRequired plan item ∧ item.stepId ≠ result.stepId ∧
        item.status ≠ .succeeded := by
  have listed : ∀ item, item ∈ _ ↔ item ∈ _ :=
    fun _ => (effect.replaced_sound sound).mem_refreshed_iff ended
  have same : (current.succeeded result occurredAt).stepId = result.stepId := effect.isCurrent.2
  constructor
  · rintro ⟨item, isNext, required, failed⟩
    rcases mem_replaced_cases ((listed item).mp isNext) with rfl | ⟨present, different⟩
    · exact absurd failed (by rw [RuntimeStepState.succeeded_status]; decide)
    · exact ⟨item, present, required, same ▸ different,
        fun success => absurd (success ▸ failed) (by decide)⟩
  · rintro ⟨item, present, required, different, unsuccessful⟩
    have isNext := (listed item).mpr (mem_replaced_of_ne present (same ▸ different))
    exact ⟨item, isNext, required,
      ((RuntimeStepStatus.mem_terminal_iff _).mp (ended item isNext)).resolve_left unsuccessful⟩

/-- After a failure that ends the execution, some required step ended without success
exactly when some required step had not succeeded before. -/
theorem FailureEffect.requiredFailure_iff {stepId : String} {error : ExecutionError}
    {finish : Finish}
    (effect : FailureEffect plan session state stepId error occurredAt current result items finish
      transition)
    (ended : ∀ next ∈ items, next.status ∈ RuntimeStepStatus.terminal) :
    RequiredFailure plan items ↔
      ∃ item ∈ state.stepStates, isRequired plan item ∧ item.status ≠ .succeeded := by
  have failedStatus : (current.failed error result occurredAt).status ≠ .succeeded := by
    rw [RuntimeStepState.failed_status]
    split <;> decide
  constructor
  · rintro ⟨next, isNext, required, failed⟩
    obtain ⟨item, replaced, step, _, _, rfl⟩ := exists_of_mem_rewritten effect.settles isNext
    have unsuccessful : item.status ≠ .succeeded := by
      intro success
      have kept : settled step occurredAt (statesById items) item = item :=
        settled_advance.of_terminal (success ▸ by decide)
      rw [kept, success] at failed
      exact absurd failed (by decide)
    rw [isRequired_congr settled_stepId] at required
    rcases mem_replaced_cases replaced with rfl | ⟨present, _⟩
    · exact ⟨current, effect.isCurrent.1, required,
        fun success => absurd (effect.runs.symm.trans success) (by decide)⟩
    · exact ⟨item, present, required, unsuccessful⟩
  · rintro ⟨item, present, required, unsuccessful⟩
    have replaced : ∃ next ∈ state.stepStates.map
        (replacedBy (current.failed error result occurredAt)),
        next.stepId = item.stepId ∧ next.status ≠ .succeeded := by
      by_cases own : item.stepId = (current.failed error result occurredAt).stepId
      · exact ⟨_, replacement_mem effect.isCurrent.1 rfl, own.symm, failedStatus⟩
      · exact ⟨item, mem_replaced_of_ne present own, rfl, unsuccessful⟩
    obtain ⟨middle, isMiddle, sameId, unsuccessfulMiddle⟩ := replaced
    obtain ⟨next, isNext, step, _, _, rfl⟩ := exists_rewritten_of_mem effect.settles isMiddle
    refine ⟨_, isNext, (isRequired_congr (settled_stepId.trans sameId)).mpr required, ?_⟩
    refine ((RuntimeStepStatus.mem_terminal_iff _).mp (ended _ isNext)).resolve_left ?_
    unfold settled
    split
    · rw [RuntimeStepState.skipped_status]
      decide
    · exact unsuccessfulMiddle

/-! ## The terminal event of each operation -/

theorem matches_iff_of_single {eventType : RuntimeEventType}
    (single : (terminalEvents transition).map (·.eventType) = [eventType]) :
    (terminalEvents transition).length = 1 ∧
      (TerminalEventMatches transition ↔ EventFits eventType transition.state.status) := by
  obtain ⟨event, isEvent, rfl⟩ := List.map_eq_singleton_iff.mp single
  rw [TerminalEventMatches, isEvent]
  simp

theorem terminalEvents_eventTypes :
    (terminalEvents transition).map (·.eventType) =
      (transition.events.map (·.eventType)).filter (· ∈ RuntimeEventType.terminal) := by
  rw [terminalEvents, List.filter_map]
  rfl

/-- A completion that ends the execution reports success, which fits when all other
required steps have succeeded. -/
theorem CompletionEffect.terminalEvent {finish : Finish}
    (effect : CompletionEffect plan session state result occurredAt current finish transition)
    (sound : RuntimeSound plan session state) (unended : state.status ∉ ExecutionStatus.terminal)
    (ends : transition.state.status ∈ ExecutionStatus.terminal) :
    (terminalEvents transition).length = 1 ∧
      (TerminalEventMatches transition ↔
        requiredStepsAgree plan state.stepStates (.complete result occurredAt)) := by
  have answers := effect.answers
  have failure := effect.requiredFailure_iff sound
  cases finishIfTerminal_spec effect.finished with
  | goesOn =>
      rw [answers] at ends
      exact absurd ends unended
  | ends ended status =>
      have single : (terminalEvents transition).map (·.eventType) = [.executionCompleted] := by
        rw [terminalEvents_eventTypes, answers]
        simp [Function.comp_def, RuntimeEventType.terminal]
      refine (matches_iff_of_single single).imp id fun fits => fits.trans ?_
      rw [answers]
      refine eventFits_completed_iff.trans ?_
      rw [failure ended]
      simp only [requiredStepsAgree, not_exists, not_and, not_not]

/-- A failure that ends the execution reports it, which fits when some required step
has not succeeded. -/
theorem FailureEffect.terminalEvent {stepId : String} {error : ExecutionError} {finish : Finish}
    (effect : FailureEffect plan session state stepId error occurredAt current result items finish
      transition)
    (unended : state.status ∉ ExecutionStatus.terminal)
    (ends : transition.state.status ∈ ExecutionStatus.terminal) (retryDecision : RetryDecision)
    (nextRetryAt : Option DateTime) :
    (terminalEvents transition).length = 1 ∧
      (TerminalEventMatches transition ↔ requiredStepsAgree plan state.stepStates
        (.fail stepId error occurredAt retryDecision nextRetryAt)) := by
  have answers := effect.answers
  have failure := effect.requiredFailure_iff
  cases finishIfTerminal_spec effect.finished with
  | goesOn =>
      rw [answers] at ends
      exact absurd ends unended
  | @ends _ executionResult ended status =>
      have listed : failureEvent executionResult ∈ RuntimeEventType.terminal := by
        unfold failureEvent
        split <;> decide
      have unlisted : RuntimeEventType.stepFailed ∉ RuntimeEventType.terminal := by decide
      have single : (terminalEvents transition).map (·.eventType) =
          [failureEvent executionResult] := by
        rw [terminalEvents_eventTypes, answers]
        simp [listed, unlisted]
      refine (matches_iff_of_single single).imp id fun fits => fits.trans ?_
      rw [answers]
      exact (eventFits_failureEvent_iff status).trans (failure ended)

/-- In every reachable execution, an accepted operation that ends it emits exactly one
terminal event, and that event fits the final status exactly when the required steps
that ended before agree with the operation. -/
theorem terminalEventMatches_iff (reachable : (executionSystem plan).Reachable execution)
    (started : execution.runtime = some state) (unended : state.status ∉ ExecutionStatus.terminal)
    (accepted : execution.call plan operation expectedRevision = .ok transition)
    (ends : transition.state.status ∈ ExecutionStatus.terminal) :
    (terminalEvents transition).length = 1 ∧
      (TerminalEventMatches transition ↔
        requiredStepsAgree plan state.stepStates operation) := by
  have sound : RuntimeSound plan execution.session state :=
    ((executionInvariant plan).of_reachable reachable).runtime state started
  cases operation with
  | start context startedAt =>
      have effect := initializeRuntime_effect accepted
      exact absurd (sound.status.symm.trans effect.created) (sessionStatusFor_ne_created _ _)
  | dispatch context stepId dispatchId issuedAt deadline =>
      simp only [ExecutionRun.call, started] at accepted
      obtain ⟨_, _, _, effect⟩ := createDispatchRequest_effect sound accepted
      rw [effect.answers] at ends
      exact absurd ends unended
  | complete result occurredAt =>
      simp only [ExecutionRun.call, started] at accepted
      rcases completeStep_effect sound accepted with ⟨_, _, _, _, effect⟩ | ⟨_, _, effect⟩
      · rw [effect.answers] at ends
        exact absurd ends unended
      · exact effect.terminalEvent sound unended ends
  | fail stepId error occurredAt retryDecision nextRetryAt =>
      simp only [ExecutionRun.call, started] at accepted
      rcases failStep_effect sound accepted with ⟨_, _, effect⟩ | ⟨_, _, _, _, effect⟩
      · rw [effect.answers] at ends
        exact absurd ends unended
      · exact effect.terminalEvent unended ends retryDecision nextRetryAt
  | requestCancellation requestedAt =>
      simp only [ExecutionRun.call, started] at accepted
      rcases requestCancellation_effect accepted with effect | effect <;>
        rw [effect.answers] at ends <;> exact absurd ends unended
  | applyCancellation occurredAt =>
      simp only [ExecutionRun.call, started] at accepted
      obtain ⟨_, _, effect⟩ := applyCancellation_effect sound accepted
      have single : (terminalEvents transition).map (·.eventType) = [.executionCancelled] := by
        rw [terminalEvents_eventTypes, effect.answers]
        rfl
      have fits : EventFits .executionCancelled .cancelled := by decide
      refine (matches_iff_of_single single).imp id fun isFit => isFit.trans ?_
      rw [effect.answers]
      exact iff_of_true fits trivial

namespace Sample

/-- The required collection fails for good while the review is still running. -/
def collectFailed : List (RuntimeOperation × Nat) :=
  handedOut ++ [(.fail "collect" failure 4 { outcome := .notRetryable } none, 3)]

theorem collectFailed_accepted :
    (ExecutionRun.run Sample.plan { session := Sample.session } collectFailed).isSome := by
  decide

/-- The execution with only the review left. -/
def reviewing : ExecutionRun :=
  (ExecutionRun.run Sample.plan { session := Sample.session } collectFailed).get
    collectFailed_accepted

theorem reviewing_reachable : (executionSystem Sample.plan).Reachable reviewing :=
  reachable_of_run (by decide) collectFailed_accepted

/-- The review fails as well. -/
def lastFailure : RuntimeOperation :=
  .fail "review" failure 5 { outcome := .notRetryable } none

/-- The review succeeds. -/
def lastCompletion : RuntimeOperation := .complete (success "review" 3 5 (by decide)) 5

end Sample

/-- When the review fails as well, the execution has failed and reports that. -/
theorem terminalEventMatches_lastFailure :
    ∃ transition, Sample.reviewing.call Sample.plan Sample.lastFailure 4 = .ok transition ∧
      TerminalEventMatches transition := by
  have happened : ∃ state ∈ Sample.reviewing.runtime,
      ∃ transition ∈ (Sample.reviewing.call Sample.plan Sample.lastFailure 4).toOption,
        state.status ∉ ExecutionStatus.terminal ∧
          transition.state.status ∈ ExecutionStatus.terminal ∧
          ∃ item ∈ state.stepStates, isRequired Sample.plan item ∧ item.status ≠ .succeeded := by
    decide
  obtain ⟨state, started, transition, returned, unended, ends, agree⟩ := happened
  have accepted := eq_ok_of_mem_toOption returned
  exact ⟨transition, accepted,
    (terminalEventMatches_iff Sample.reviewing_reachable started unended accepted ends).2.mpr
      agree⟩

/-- When the review succeeds last, the execution has failed and reports that it
completed. -/
theorem failed_execution_reports_completed :
    ∃ state transition, (executionSystem Sample.plan).Reachable Sample.reviewing ∧
      Sample.reviewing.runtime = some state ∧ state.status ∉ ExecutionStatus.terminal ∧
      Sample.reviewing.call Sample.plan Sample.lastCompletion 4 = .ok transition ∧
      transition.state.status = .failed ∧
      (terminalEvents transition).map (·.eventType) = [.executionCompleted] ∧
      ¬ TerminalEventMatches transition := by
  have happened : ∃ state ∈ Sample.reviewing.runtime,
      ∃ transition ∈ (Sample.reviewing.call Sample.plan Sample.lastCompletion 4).toOption,
        state.status ∉ ExecutionStatus.terminal ∧ transition.state.status = .failed ∧
          (terminalEvents transition).map (·.eventType) = [.executionCompleted] ∧
          ¬ TerminalEventMatches transition := by
    decide
  obtain ⟨state, started, transition, returned, unended, failed, reported, mismatch⟩ := happened
  exact ⟨state, transition, Sample.reviewing_reachable, started, unended,
    eq_ok_of_mem_toOption returned, failed, reported, mismatch⟩

end PolicyOS.Execution
