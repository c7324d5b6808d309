import PolicyOS.Execution.Acceptance
import PolicyOS.Execution.Synthesis
import PolicyOS.Execution.TerminalEvents

/-!
# Runtime and synthesis agree

The runtime ends an execution by the states of its steps, the synthesis by their
results. Along every run each result has the status of the step state it is kept in,
so both read the same statuses and come to the same end.
-/

namespace PolicyOS.Execution

open Foundation

variable {plan : ExecutionPlan} {execution : ExecutionRun} {operation : RuntimeOperation}
  {expectedRevision : Nat} {transition : RuntimeTransition} {session : ExecutionSession}
  {state : ExecutionRuntimeState} {items nexts : List RuntimeStepState}
  {item next current replacement : RuntimeStepState} {occurredAt updatedAt : DateTime}

/-! ## Results have the status of their step -/

/-- The status of a step state that keeps a result of this status. -/
def StepStatus.runtimeStatus : StepStatus → RuntimeStepStatus
  | pending => .pending
  | running => .running
  | succeeded => .succeeded
  | failed => .failed
  | skipped => .skipped
  | cancelled => .cancelled
  | timedOut => .timedOut

/-- The result of a step, if it has one, has its status. -/
def ResultAgrees (item : RuntimeStepState) : Prop :=
  ∀ result ∈ item.result, item.status = result.status.runtimeStatus

/-- All results have the status of their step. -/
def ResultsAgree (items : List RuntimeStepState) : Prop := ∀ item ∈ items, ResultAgrees item

theorem ResultAgrees.of_unresolved (unresolved : item.result = none) : ResultAgrees item :=
  fun _ isResult => nomatch unresolved.symm.trans isResult

theorem StatesSound.unresolved (sound : StatesSound plan updatedAt items) (present : item ∈ items)
    (unended : item.status ∉ RuntimeStepStatus.terminal) : item.result = none := by
  obtain ⟨_, _, own⟩ := sound.sound item present
  exact own.unresolved unended

theorem ResultAgrees.failed {error : ExecutionError} {result : StepResult}
    (status : result.status = if error.category = .timeout then .timedOut else .failed) :
    ResultAgrees (current.failed error result occurredAt) := by
  intro kept isResult
  obtain rfl : result = kept := Option.some.inj isResult
  rw [RuntimeStepState.failed_status, status]
  split <;> rfl

/-- A cancelled step agrees with the result it is cancelled with. -/
theorem ResultAgrees.cancelled (cancels : cancelStep occurredAt item = .ok next)
    (agrees : ResultAgrees item) : ResultAgrees next := by
  unfold cancelStep at cancels
  split at cancels
  · obtain rfl := Except.ok.inj cancels
    exact agrees
  · simp only [bind_eq_ok_iff, StepResult.validated_eq_ok_iff, pure_eq_ok_iff] at cancels
    obtain ⟨result, fields, rfl⟩ := cancels
    intro kept isResult
    obtain rfl : result = kept := Option.some.inj isResult
    rw [RuntimeStepState.cancelled_status, fields]
    rfl

namespace ResultsAgree

theorem replaced (agree : ResultsAgree items) (agrees : ResultAgrees replacement) :
    ResultsAgree (items.map (replacedBy replacement)) := by
  intro next isNext
  rcases mem_replaced_cases isNext with rfl | ⟨present, _⟩
  · exact agrees
  · exact agree next present

/-- A refresh keeps agreement. -/
theorem refreshed (agree : ResultsAgree state.stepStates)
    (sound : StatesSound plan updatedAt state.stepStates) :
    ResultsAgree (refreshReady plan state occurredAt).1.stepStates := by
  intro next isNext
  obtain ⟨item, present, rfl⟩ := List.mem_map.mp isNext
  rcases refreshed_cases sound.distinct present with kept | ⟨waits, readied⟩
  · rw [kept]
    exact agree item present
  · rw [readied]
    have unresolved : item.result = none :=
      sound.unresolved present (RuntimeStepStatus.not_terminal_of_waiting waits)
    exact .of_unresolved unresolved

theorem settled (agree : ResultsAgree items)
    (settles : SettledStates plan occurredAt items nexts) : ResultsAgree nexts := by
  intro next isNext
  obtain ⟨item, present, step, _, _, rfl⟩ := exists_of_mem_rewritten settles isNext
  unfold Execution.settled
  split
  · intro kept isResult
    obtain rfl : skippedResult item occurredAt = kept := Option.some.inj isResult
    rfl
  · exact agree item present

end ResultsAgree

/-- An accepted operation on a started execution keeps agreement. -/
theorem call_resultsAgree (started : execution.runtime = some state)
    (sound : RuntimeSound plan execution.session state) (agree : ResultsAgree state.stepStates)
    (accepted : execution.call plan operation expectedRevision = .ok transition) :
    ResultsAgree transition.state.stepStates := by
  cases operation with
  | start context startedAt =>
      have effect := initializeRuntime_effect accepted
      exact absurd (sound.status.symm.trans effect.created) (sessionStatusFor_ne_created _ _)
  | dispatch context stepId dispatchId issuedAt deadline =>
      simp only [ExecutionRun.call, started] at accepted
      obtain ⟨step, current, request, effect⟩ := createDispatchRequest_effect sound accepted
      have unresolved : current.result = none := sound.steps.unresolved effect.isCurrent.1
        (RuntimeStepStatus.not_terminal_of_waiting effect.waits)
      rw [effect.answers]
      exact agree.replaced (.of_unresolved unresolved)
  | complete result occurredAt =>
      simp only [ExecutionRun.call, started] at accepted
      rcases completeStep_effect sound accepted with
        ⟨_, _, _, _, effect⟩ | ⟨current, finish, effect⟩
      · rw [effect.answers]
        exact agree
      · have agrees : ResultAgrees (current.succeeded result occurredAt) := by
          intro kept isResult
          obtain rfl : result = kept := Option.some.inj isResult
          rw [RuntimeStepState.succeeded_status, effect.success]
          rfl
        rw [effect.answers, (finishIfTerminal_spec effect.finished).stepStates]
        exact (agree.replaced agrees).refreshed (effect.replaced_sound sound)
  | fail stepId error occurredAt retryDecision nextRetryAt =>
      simp only [ExecutionRun.call, started] at accepted
      rcases failStep_effect sound accepted with
        ⟨step, current, effect⟩ | ⟨current, result, items, finish, effect⟩
      · have unresolved : current.result = none :=
          sound.steps.unresolved effect.isCurrent.1 (effect.runs ▸ by decide)
        rw [effect.answers]
        exact agree.replaced (.of_unresolved unresolved)
      · rw [effect.answers, (finishIfTerminal_spec effect.finished).stepStates]
        exact (agree.replaced (.failed effect.failedResult.2)).settled effect.settles
  | requestCancellation requestedAt =>
      simp only [ExecutionRun.call, started] at accepted
      rcases requestCancellation_effect accepted with effect | effect <;>
        rw [effect.answers] <;> exact agree
  | applyCancellation occurredAt =>
      simp only [ExecutionRun.call, started] at accepted
      obtain ⟨items, result, effect⟩ := applyCancellation_effect sound accepted
      rw [effect.answers]
      intro next isNext
      obtain ⟨item, present, cancels⟩ :=
        exists_of_mem_rewritten (collectEach_eq_ok_iff.mp effect.cancelled) isNext
      exact (agree item present).cancelled cancels

/-- What holds of an execution along every run, with its results. -/
structure ResultsSound (plan : ExecutionPlan) (execution : ExecutionRun) : Prop where
  sound : ExecutionSound plan execution
  agree : ∀ state, execution.runtime = some state → ResultsAgree state.stepStates

/-- The invariant of all runs of a plan, with the results. -/
def resultsInvariant (plan : ExecutionPlan) : (executionSystem plan).Invariant where
  Holds := ResultsSound plan
  initial := by
    rintro execution ⟨valid, unstarted, none⟩
    refine ⟨(executionInvariant plan).initial _ ⟨valid, unstarted, none⟩, fun state isState => ?_⟩
    rw [unstarted] at isState
    cases isState
  preserved := by
    rintro execution ⟨operation, expectedRevision⟩ _ results ⟨transition, accepted, rfl⟩
    refine ⟨results.sound.after accepted, fun state isState => ?_⟩
    obtain rfl := Option.some.inj isState
    cases started : execution.runtime with
    | none =>
        obtain ⟨_, startedAt, _, effect⟩ := call_unstarted started accepted
        intro item present
        have initial : item ∈ transition.state.stepStates := present
        rw [effect.newState] at initial
        obtain ⟨step, _, rfl⟩ := List.mem_map.mp initial
        exact .of_unresolved rfl
    | some state =>
        exact call_resultsAgree started (results.sound.runtime state started)
          (results.agree state started) accepted

/-! ## The two status functions -/

theorem StepStatus.runtimeStatus_iff (status : StepStatus) :
    (status.runtimeStatus = .timedOut ↔ status = .timedOut) ∧
      (status.runtimeStatus = .succeeded ↔ status = .succeeded) := by
  cases status <;> decide

/-- Where every step has ended with a result of its status, some result has a status
exactly when its step has it. -/
theorem exists_result_iff (ofStep : String → Prop) (stepStatus : StepStatus → Prop)
    (itemStatus : RuntimeStepStatus → Prop)
    (same : ∀ status, itemStatus (StepStatus.runtimeStatus status) ↔ stepStatus status)
    (sound : StatesSound plan updatedAt items)
    (agree : ResultsAgree items) (ended : ∀ item ∈ items, item.status ∈ RuntimeStepStatus.terminal) :
    (∃ result ∈ items.filterMap (·.result), ofStep result.stepId ∧ stepStatus result.status) ↔
      ∃ item ∈ items, ofStep item.stepId ∧ itemStatus item.status := by
  constructor
  · rintro ⟨result, listed, ofResult, status⟩
    obtain ⟨item, present, isResult⟩ := List.mem_filterMap.mp listed
    obtain ⟨_, _, own⟩ := sound.sound item present
    obtain ⟨other, isOther, sameStep⟩ := own.resolved (ended item present)
    obtain rfl : other = result := Option.some.inj (isOther.symm.trans isResult)
    refine ⟨item, present, sameStep ▸ ofResult, ?_⟩
    rw [agree item present other isResult]
    exact (same other.status).mpr status
  · rintro ⟨item, present, ofItem, status⟩
    obtain ⟨_, _, own⟩ := sound.sound item present
    obtain ⟨result, isResult, sameStep⟩ := own.resolved (ended item present)
    refine ⟨result, List.mem_filterMap.mpr ⟨item, present, isResult⟩, sameStep ▸ ofItem, ?_⟩
    rw [agree item present result isResult] at status
    exact (same result.status).mp status

/-- Where every step has ended with a result of its status, the status by the results
is the final status by the step states. -/
theorem executionStatus_eq_finalStatus (sound : StatesSound plan updatedAt items)
    (agree : ResultsAgree items) (ended : ∀ item ∈ items, item.status ∈ RuntimeStepStatus.terminal)
    {results : List StepResult}
    (listed : ∀ result, result ∈ results ↔ result ∈ items.filterMap (·.result)) :
    (executionStatus plan results).1 = finalStatus plan items := by
  let required := fun stepId =>
    ∃ step ∈ plan.steps.find? (·.stepId = stepId), step.required = true
  have timedOut : (∃ result ∈ results.filter (requiredResult plan ·), result.status = .timedOut) ↔
      ∃ item ∈ items, required item.stepId ∧ item.status = .timedOut := by
    simp only [List.mem_filter, decide_eq_true_eq, listed, and_assoc]
    exact exists_result_iff required (· = .timedOut) (· = .timedOut)
      (fun status => status.runtimeStatus_iff.1) sound agree ended
  have unsuccessful : (∃ result ∈ results.filter (requiredResult plan ·),
      result.status ≠ .succeeded) ↔
      ∃ item ∈ items, required item.stepId ∧ item.status ≠ .succeeded := by
    simp only [List.mem_filter, decide_eq_true_eq, listed, and_assoc]
    exact exists_result_iff required (· ≠ .succeeded) (· ≠ .succeeded)
      (fun status => status.runtimeStatus_iff.2.not) sound agree ended
  have incomplete : (∃ result ∈ results, result.status ≠ .succeeded) ↔
      ∃ item ∈ items, item.status ≠ .succeeded := by
    simp only [listed]
    have anyStep := exists_result_iff (fun _ => True) (· ≠ .succeeded) (· ≠ .succeeded)
      (fun status => status.runtimeStatus_iff.2.not) sound agree ended
    simpa only [true_and] using anyStep
  have late : someRequired plan items [.timedOut] ↔
      ∃ item ∈ items, required item.stepId ∧ item.status = .timedOut := by
    simp only [someRequired, isRequired, List.mem_singleton, required]
  have failed (inTime : ¬ ∃ item ∈ items, required item.stepId ∧ item.status = .timedOut) :
      someRequired plan items [.failed, .cancelled, .skipped] ↔
        ∃ item ∈ items, required item.stepId ∧ item.status ≠ .succeeded := by
    refine exists_congr fun item => and_congr_right fun present => and_congr_right fun isRequired => ?_
    have notLate : item.status ≠ .timedOut := fun late => inTime ⟨item, present, isRequired, late⟩
    have isEnd := ended item present
    revert isEnd notLate
    cases item.status <;> decide
  rw [executionStatus, finalStatus]
  simp only [timedOut, unsuccessful, incomplete, late]
  by_cases inTime : ∃ item ∈ items, required item.stepId ∧ item.status = .timedOut
  · rw [if_pos inTime, if_pos inTime]
  · rw [if_neg inTime, if_neg inTime]
    simp only [failed inTime]
    split
    · rfl
    · split <;> rfl

/-! ## The end of an execution -/

/-- How an execution that was finished has ended. -/
structure EndedWith (plan : ExecutionPlan) (state : ExecutionRuntimeState)
    (result : ExecutionResult) : Prop where
  ended : ∀ item ∈ state.stepStates, item.status ∈ RuntimeStepStatus.terminal
  status : state.status = finalStatus plan state.stepStates
  stepResults : result.stepResults = state.stepStates.filterMap (·.result)

/-- An execution that is finished only now ends with the results of its steps. -/
theorem finishIfTerminal_ended {failure : Option ExecutionError} {finish : Finish}
    (finished : finishIfTerminal plan state session occurredAt failure = .ok finish)
    (unended : state.status ∉ ExecutionStatus.terminal)
    (ends : finish.state.status ∈ ExecutionStatus.terminal) :
    ∃ result, finish.result = some result ∧ EndedWith plan finish.state result := by
  unfold finishIfTerminal at finished
  split at finished
  · rename_i ended
    simp only [buildExecutionResult, bind_eq_ok_iff, exists_unit_iff, pure_eq_ok_iff,
      ExecutionResult.validated_eq_ok_iff] at finished
    obtain ⟨result, ⟨_, _, _, fields⟩, rfl⟩ := finished
    refine ⟨result, rfl, ended, rfl, ?_⟩
    rw [fields]
  · obtain rfl := Except.ok.inj finished
    exact absurd ends unended

/-- The operations that report what came of a step. -/
def RuntimeOperation.reportsStep : RuntimeOperation → Prop
  | .complete .. | .fail .. => True
  | _ => False

/-- A report that ends the execution ends it with the results of its steps. -/
theorem call_ended (started : execution.runtime = some state)
    (sound : RuntimeSound plan execution.session state)
    (unended : state.status ∉ ExecutionStatus.terminal) (reports : operation.reportsStep)
    (accepted : execution.call plan operation expectedRevision = .ok transition)
    (ends : transition.state.status ∈ ExecutionStatus.terminal) :
    ∃ result, transition.executionResult = some result ∧
      EndedWith plan transition.state result := by
  cases operation with
  | complete result occurredAt =>
      simp only [ExecutionRun.call, started] at accepted
      rcases completeStep_effect sound accepted with ⟨_, _, _, _, effect⟩ | ⟨_, _, effect⟩ <;>
        rw [effect.answers] at ends ⊢
      · exact absurd ends unended
      · exact finishIfTerminal_ended effect.finished unended ends
  | fail stepId error occurredAt retryDecision nextRetryAt =>
      simp only [ExecutionRun.call, started] at accepted
      rcases failStep_effect sound accepted with ⟨_, _, effect⟩ | ⟨_, _, _, _, effect⟩ <;>
        rw [effect.answers] at ends ⊢
      · exact absurd ends unended
      · exact finishIfTerminal_ended effect.finished unended ends
  | start | dispatch | requestCancellation | applyCancellation => exact reports.elim

/-- When a completed or failed step ends an execution, the status that is assembled from
the results of its steps, in whatever order they are given, is its final status. -/
theorem assembledStatus_agrees (reachable : (executionSystem plan).Reachable execution)
    (started : execution.runtime = some state)
    (unended : state.status ∉ ExecutionStatus.terminal) (reports : operation.reportsStep)
    (accepted : execution.call plan operation expectedRevision = .ok transition)
    (ends : transition.state.status ∈ ExecutionStatus.terminal) :
    ∃ result, transition.executionResult = some result ∧
      result.stepResults = transition.state.stepStates.filterMap (·.result) ∧
      ∀ stepResults, stepResults.Perm result.stepResults →
        ∀ startedAt completedAt, startedAt ≤ completedAt →
          ∃ error, assembledStatus plan stepResults startedAt completedAt =
            .ok (transition.state.status, error) := by
  have results : ResultsSound plan execution := (resultsInvariant plan).of_reachable reachable
  have sound := results.sound.runtime state started
  have steps := ((call_effect started sound accepted).sound sound).steps
  have agree := call_resultsAgree started sound (results.agree state started) accepted
  obtain ⟨result, isResult, endedWith⟩ := call_ended started sound unended reports accepted ends
  refine ⟨result, isResult, endedWith.stepResults, ?_⟩
  intro stepResults permuted startedAt completedAt ordered
  rw [endedWith.stepResults] at permuted
  have listed : (stepResults.map (·.stepId)).Perm plan.stepIds :=
    (permuted.map _).trans (steps.results_stepIds endedWith.ended ▸ steps.listed)
  have kept : ∀ result, result ∈ stepResults.insertionSort notAfterByStep ↔
      result ∈ transition.state.stepStates.filterMap (·.result) :=
    fun _ => mem_sorted_iff.trans permuted.mem_iff
  rw [endedWith.status, ← executionStatus_eq_finalStatus steps agree endedWith.ended kept]
  exact ⟨_, assembledStatus_eq_ok ordered listed⟩

/-- When the collection and the review have both failed, the synthesis reports the failed
execution the runtime ended with. -/
theorem assembledStatus_agrees_lastFailure :
    ∃ transition, Sample.reviewing.call Sample.plan Sample.lastFailure 4 = .ok transition ∧
      transition.state.status = .failed ∧
      ∃ result, transition.executionResult = some result ∧
        ∃ error, assembledStatus Sample.plan result.stepResults 1 5 = .ok (.failed, error) := by
  have happened : ∃ state ∈ Sample.reviewing.runtime,
      ∃ transition ∈ (Sample.reviewing.call Sample.plan Sample.lastFailure 4).toOption,
        state.status ∉ ExecutionStatus.terminal ∧ transition.state.status = .failed := by
    decide
  obtain ⟨state, started, transition, returned, unended, failed⟩ := happened
  have accepted := eq_ok_of_mem_toOption returned
  have ends : transition.state.status ∈ ExecutionStatus.terminal := failed ▸ by decide
  have reports : Sample.lastFailure.reportsStep := trivial
  obtain ⟨result, isResult, _, assembled⟩ :=
    assembledStatus_agrees Sample.reviewing_reachable started unended reports accepted ends
  refine ⟨transition, accepted, failed, result, isResult, ?_⟩
  rw [← failed]
  exact assembled result.stepResults (.refl _) 1 5 (by decide)

end PolicyOS.Execution
