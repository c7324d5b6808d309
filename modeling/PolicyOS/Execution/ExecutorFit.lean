import Mathlib.Data.Int.ConditionallyCompleteOrder
import PolicyOS.Execution.Acceptance
import PolicyOS.Execution.Executor
import PolicyOS.Execution.Progress

/-!
# What the runtime accepts of the executor

The executor stamps a result with its own clock, or with the times its adapter
reports; the runtime started the attempt when it issued the dispatch. A failure is
accepted whatever its start, because the runtime stamps that itself, but a success
must carry the issue time as its start, which nothing asks of an adapter.
-/

namespace PolicyOS.Execution

open Foundation

variable {plan : ExecutionPlan} {execution : ExecutionRun} {session : ExecutionSession}
  {context : ExecutionContext} {state : ExecutionRuntimeState} {current : RuntimeStepState}
  {executor : DeterministicProviderExecutor} {adapter : ProviderAdapter}
  {binding : DispatchBinding} {dispatch : DispatchRequest}
  {invocationContext : ProviderInvocationContext} {outcome : ProviderExecutionOutcome}
  {invocation : ProviderInvocationOutcomeFields} {scaledDelay : RetryPolicy → Nat → Nat}

/-- When a failed step may be attempted again: as late as the decision says. -/
def RetryDecision.nextRetryAt (decision : RetryDecision) (now : DateTime) : Option DateTime :=
  if decision.retry then some (now + decision.delayMs.val * 1000) else none

/-- A result is usable when the runtime accepts it as it stands: a success completes
its step, and the error of any other result fails it, as the retry policy decides. -/
def ResultUsable (scaledDelay : RetryPolicy → Nat → Nat) (plan : ExecutionPlan)
    (session : ExecutionSession) (state : ExecutionRuntimeState) (result : StepResult)
    (completedAt : DateTime) : Prop :=
  if result.status = .succeeded then
    Accepted (completeStep session plan state result completedAt state.revision)
  else ∃ error ∈ result.error, ∃ step ∈ plan.steps, step.stepId = result.stepId ∧
    let decision := decideRetry scaledDelay step result.attemptCount error completedAt
      session.deadline state.cancellationRequested
    Accepted (failStep session plan state result.stepId error completedAt decision
      (decision.nextRetryAt completedAt) state.revision)

/-- The times of an answer fit the runtime: it does not complete before the last
transition, and a success in time started when its dispatch was issued. -/
def AnswerFits (binding : DispatchBinding) (dispatch : DispatchRequest)
    (state : ExecutionRuntimeState) (reported : ProviderInvocationOutcome) : Prop :=
  state.updatedAt ≤ reported.completedAt ∧ (reported.status = .succeeded →
    binding.expired reported.completedAt ∨ reported.startedAt = dispatch.issuedAt)

instance (reported : ProviderInvocationOutcome) :
    Decidable (AnswerFits binding dispatch state reported) :=
  inferInstanceAs (Decidable (_ ∧ _))

/-- The times of an execution fit the runtime: the clock of the executor where it stamps
the result itself, and otherwise the answer of the provider. -/
def TimesFit (executor : DeterministicProviderExecutor) (adapter : ProviderAdapter)
    (binding : DispatchBinding) (dispatch : DispatchRequest)
    (invocationContext : ProviderInvocationContext) (state : ExecutionRuntimeState) : Prop :=
  if binding.expired (executor.clock 0) then state.updatedAt ≤ executor.clock 0
  else
    (adapter.invoke (invocationRequest binding dispatch) invocationContext).elim
      (state.updatedAt ≤ executor.clock 1) (AnswerFits binding dispatch state)

instance (answer : Option ProviderInvocationOutcome) (silent : Prop) [Decidable silent] :
    Decidable (answer.elim silent (AnswerFits binding dispatch state)) :=
  match answer with
  | none => inferInstanceAs (Decidable silent)
  | some reported => inferInstanceAs (Decidable (AnswerFits binding dispatch state reported))

instance : Decidable (TimesFit executor adapter binding dispatch invocationContext state) :=
  inferInstanceAs (Decidable (ite _ _ _))

/-! ## What the executor answers -/

theorem decideRetry_room {step : ExecutionStep} {currentAttempt : Nat} {error : ExecutionError}
    {now : DateTime} {executionDeadline : Option DateTime} {cancellationRequested : Bool}
    (retries : (decideRetry scaledDelay step currentAttempt error now executionDeadline
      cancellationRequested).retry) :
    currentAttempt < step.retryPolicy.maxAttempts := by
  by_contra exhausted
  rw [not_lt] at exhausted
  unfold decideRetry RetryDecision.retry at retries
  repeat' split at retries
  all_goals cases retries

/-- A normalized invocation of the running attempt is usable exactly when it does not
complete before the last transition and, as a success, starts when it was issued. -/
theorem normalized_usable_iff (sound : RuntimeSound plan session state)
    (present : current ∈ state.stepStates) (attempt : IsAttemptOf current dispatch)
    (normalized : normalize invocation = .ok outcome)
    (scope : invocation.stepId = dispatch.stepId ∧ invocation.attempt = dispatch.attempt)
    (explained : invocation.status ≠ .succeeded → invocation.error ≠ none) :
    ResultUsable scaledDelay plan session state outcome.stepResult outcome.completedAt ↔
      state.updatedAt ≤ invocation.completedAt ∧
        (invocation.status = .succeeded → invocation.startedAt = dispatch.issuedAt) := by
  simp only [normalize, bind_eq_ok_iff, StepResult.validated_eq_ok_iff, pure_eq_ok_iff]
    at normalized
  obtain ⟨result, fields, rfl⟩ := normalized
  have own : current.stepId = result.stepId := by
    rw [fields]
    exact attempt.stepId.trans scope.1.symm
  have counted : result.attemptCount = current.attemptCount := by
    rw [fields]
    exact scope.2.trans attempt.attempt.symm
  have status : result.status = .succeeded ↔ invocation.status = .succeeded := by
    rw [fields]
    exact InvocationStatus.stepStatus_eq_succeeded_iff
  rw [ResultUsable]
  by_cases success : invocation.status = .succeeded
  · rw [if_pos (status.mpr success), sound.completeStep_accepted_iff ⟨present, own⟩ attempt.runs]
    have timing : result.startedAt = some invocation.startedAt ∧
        result.completedAt = some invocation.completedAt := by
      rw [fields]
      exact ⟨rfl, rfl⟩
    simp only [status, success, counted, timing, attempt.started, Option.some.injEq, true_and,
      and_true, forall_const]
  · rw [if_neg (status.not.mpr success)]
    obtain ⟨error, isError⟩ := Option.ne_none_iff_exists'.mp (explained success)
    obtain ⟨step, isStep, itsOwn⟩ := sound.steps.sound current present
    have isResult : result.error = some error := by
      rw [fields]
      exact isError
    have same : step.stepId = result.stepId := itsOwn.stepId.symm.trans own
    simp only [success, false_implies, and_true, isResult, Option.mem_def, Option.some.injEq,
      exists_eq_left']
    have accepted : ∀ decision, (decision.retry → current.attemptCount <
        step.retryPolicy.maxAttempts) →
      (Accepted (failStep session plan state result.stepId error invocation.completedAt decision
          (decision.nextRetryAt invocation.completedAt) state.revision) ↔
        state.updatedAt ≤ invocation.completedAt) := by
      intro decision room
      rw [sound.failStep_accepted_iff ⟨isStep, same⟩ ⟨present, own⟩ attempt.runs]
      exact and_iff_left_of_imp fun _ retries => ⟨room retries, if_pos retries⟩
    constructor
    · rintro ⟨other, isOther, otherSame, usable⟩
      obtain rfl := plan.step_unique isOther isStep (otherSame.trans same.symm)
      exact (accepted _ fun retries => counted ▸ decideRetry_room retries).mp usable
    · intro later
      exact ⟨step, isStep, same,
        (accepted _ fun retries => counted ▸ decideRetry_room retries).mpr later⟩

/-- What an execution comes to: the deadline had passed before it, or the provider was
asked, and its answer normalized unless it came too late. -/
inductive Executes (executor : DeterministicProviderExecutor) (adapter : ProviderAdapter)
    (binding : DispatchBinding) (dispatch : DispatchRequest)
    (invocationContext : ProviderInvocationContext) :
    ProviderInvocationOutcomeFields → Prop where
  | expired (expired : binding.expired (executor.clock 0)) :
      Executes executor adapter binding dispatch invocationContext
        (preflightInvocation binding dispatch (executor.clock 0) .timedOut)
  | late {reported : ProviderInvocationOutcome} (unexpired : ¬ binding.expired (executor.clock 0))
      (answered : executor.invoked adapter binding dispatch invocationContext = .ok reported)
      (scope : reported.stepId = binding.stepId ∧ reported.attempt = dispatch.attempt)
      (late : binding.expired reported.completedAt) :
      Executes executor adapter binding dispatch invocationContext
        (lateInvocation reported.toProviderInvocationOutcomeFields)
  | inTime {reported : ProviderInvocationOutcome}
      (unexpired : ¬ binding.expired (executor.clock 0))
      (answered : executor.invoked adapter binding dispatch invocationContext = .ok reported)
      (scope : reported.stepId = binding.stepId ∧ reported.attempt = dispatch.attempt)
      (inTime : ¬ binding.expired reported.completedAt) :
      Executes executor adapter binding dispatch invocationContext
        reported.toProviderInvocationOutcomeFields

/-- Read back what `execute` did in an execution that is not being cancelled. -/
theorem execute_spec {expectedRevision : Nat}
    (preflight : validatePreflight binding dispatch session context state expectedRevision =
      .ok invocationContext)
    (selected : executor.adapters.require binding.providerId = .ok adapter)
    (unrequested : invocationContext.cancellationRequested = false)
    (returned : executor.execute binding dispatch session context state expectedRevision =
      .ok outcome) :
    ∃ invocation, Executes executor adapter binding dispatch invocationContext invocation ∧
      normalize invocation = .ok outcome := by
  simp only [DeterministicProviderExecutor.execute, preflight, selected, bind_eq_ok_iff,
    Except.ok.injEq, exists_eq_left', exists_unit_iff, rejectIf_eq_ok_iff, unrequested,
    Bool.false_eq_true, if_false] at returned
  obtain ⟨_, _, _, _, _, returned⟩ := returned
  split at returned
  · rename_i expired
    simp only [preflightOutcome, bind_eq_ok_iff, ProviderInvocationOutcome.validated_eq_ok_iff]
      at returned
    obtain ⟨_, same, normalized⟩ := returned
    exact ⟨_, .expired expired, same ▸ normalized⟩
  · rename_i unexpired
    simp only [bind_eq_ok_iff, exists_unit_iff, validateInvocation, rejectIf_eq_ok_iff, not_or,
      not_not] at returned
    obtain ⟨reported, answered, ⟨_, _, ofStep, ofAttempt⟩, returned⟩ := returned
    split at returned
    · rename_i late
      exact ⟨_, .late unexpired answered ⟨ofStep, ofAttempt⟩ late, returned⟩
    · rename_i inTime
      exact ⟨_, .inTime unexpired answered ⟨ofStep, ofAttempt⟩ inTime, returned⟩

theorem ProviderInvocationOutcome.explained (reported : ProviderInvocationOutcome)
    (unsuccessful : reported.status ≠ .succeeded) : reported.error ≠ none := by
  have valid := reported.valid
  simp only [ProviderInvocationOutcomeFields.consistent, bind_eq_ok_iff, exists_unit_iff,
    rejectIf_eq_ok_iff, not_and] at valid
  exact valid.2.2.2.2.2 unsuccessful

/-- Once the provider was asked, whether the times fit is read off what it answered. -/
theorem timesFit_iff_of_answered {reported : ProviderInvocationOutcome}
    (unexpired : ¬ binding.expired (executor.clock 0))
    (answered : executor.invoked adapter binding dispatch invocationContext = .ok reported) :
    TimesFit executor adapter binding dispatch invocationContext state ↔
      state.updatedAt ≤ reported.completedAt ∧ (reported.status = .succeeded →
        binding.expired reported.completedAt ∨ reported.startedAt = dispatch.issuedAt) := by
  unfold DeterministicProviderExecutor.invoked at answered
  rw [TimesFit, if_neg unexpired]
  cases invoked : adapter.invoke (invocationRequest binding dispatch) invocationContext with
  | some other =>
      rw [invoked, Except.ok.injEq] at answered
      rw [answered]
      exact Iff.rfl
  | none =>
      simp only [invoked, ProviderInvocationOutcome.validated_eq_ok_iff] at answered
      rw [answered]
      exact (and_iff_left (by rintro ⟨⟩)).symm

/-- The facts an accepted preflight establishes about a sound execution. -/
theorem RuntimeSound.preflight (sound : RuntimeSound plan session state) {expectedRevision : Nat}
    (preflight : validatePreflight binding dispatch session context state expectedRevision =
      .ok invocationContext) :
    binding.stepId = dispatch.stepId ∧ invocationContext.cancellationRequested = false := by
  simp only [validatePreflight, bind_eq_ok_iff, exists_unit_iff, rejectIf_eq_ok_iff, not_not,
    ProviderInvocationContext.validated_eq_ok_iff] at preflight
  obtain ⟨_, running, active, _, _, ⟨_, _, _, _, ofStep, _⟩, _, _, fields⟩ := preflight
  have status := sound.status
  rw [running, active] at status
  have unrequested : state.cancellationRequested = false := by
    cases requested : state.cancellationRequested with
    | false => rfl
    | true =>
        rw [requested] at status
        cases status
  rw [fields]
  exact ⟨ofStep, unrequested⟩

/-- For every reachable execution with an unanswered dispatch, whatever the executor
answers is usable exactly when its times fit the runtime. -/
theorem executorResult_usable_iff (reachable : (executionSystem plan).Reachable execution)
    (started : execution.runtime = some state) (active : dispatch ∈ execution.active)
    (preflight : validatePreflight binding dispatch execution.session context state
      state.revision = .ok invocationContext)
    (selected : executor.adapters.require binding.providerId = .ok adapter)
    (returned : executor.execute binding dispatch execution.session context state
      state.revision = .ok outcome) :
    ResultUsable scaledDelay plan execution.session state outcome.stepResult
        outcome.completedAt ↔
      TimesFit executor adapter binding dispatch invocationContext state := by
  have dispatching : DispatchingSound plan execution :=
    (dispatchingInvariant plan).of_reachable reachable
  have sound := dispatching.sound.runtime state started
  obtain ⟨current, present, attempt⟩ := (dispatching.started state started).attempted dispatch active
  obtain ⟨ofStep, unrequested⟩ := sound.preflight preflight
  obtain ⟨invocation, executes, normalized⟩ :=
    execute_spec preflight selected unrequested returned
  cases executes with
  | expired expired =>
      rw [normalized_usable_iff sound present attempt normalized ⟨ofStep, rfl⟩
        fun _ => Option.some_ne_none _, TimesFit, if_pos expired]
      exact and_iff_left nofun
  | @late reported unexpired answered scope late =>
      rw [normalized_usable_iff sound present attempt normalized
        ⟨scope.1.trans ofStep, scope.2⟩ fun _ => Option.some_ne_none _,
        timesFit_iff_of_answered unexpired answered]
      exact and_congr_right fun _ => iff_of_true nofun fun _ => .inl late
  | @inTime reported unexpired answered scope inTime =>
      rw [normalized_usable_iff sound present attempt normalized
        ⟨scope.1.trans ofStep, scope.2⟩ reported.explained,
        timesFit_iff_of_answered unexpired answered]
      simp only [inTime, false_or]

namespace Sample

/-- A provider that reports success after an hour, from when it says it started. -/
def library (startedAt : ProviderInvocationContext → DateTime) : ProviderAdapter where
  providerId := "knowledge.library"
  providerKind := .knowledge
  supportedCapabilities := ["knowledge.search"]
  invoke request context :=
    (ProviderInvocationOutcome.validated
      { providerId := request.providerId
        capabilityId := request.capabilityId
        stepId := request.stepId
        attempt := request.attempt
        status := .succeeded
        startedAt := startedAt context
        completedAt := startedAt context + 3600 }).toOption

/-- An executor with this provider, and a clock that starts at four. -/
def libraryExecutor (startedAt : ProviderInvocationContext → DateTime) :
    DeterministicProviderExecutor where
  adapters :=
    { adapters := [library startedAt]
      distinct := List.nodup_singleton _
      ordered := List.pairwise_singleton ..
      canonical := by simp [library] }
  descriptors :=
    { providers :=
        [{ providerId := "knowledge.library"
           providerKind := .knowledge
           capabilities := [{ capabilityId := "knowledge.search" }] }] }
  clock reading := 4 + reading
  described := rfl

/-- The collection, bound to the provider as soon as it was handed out. -/
def collectBinding : DispatchBinding where
  bindingId := 21
  dispatchId := 11
  sessionId := 3
  executionId := 2
  planId := 1
  stepId := "collect"
  capabilityId := "knowledge.search"
  providerId := "knowledge.library"
  idempotencyKey := "collect-1"
  boundAt := 2
  classification := .internal
  organizationId := 4

end Sample

/-- A success that starts when its dispatch was issued is usable. -/
theorem executorResult_usable_fromIssue :
    ∃ state ∈ Sample.running.runtime, ∃ dispatch ∈ Sample.running.active,
      ∃ outcome ∈ ((Sample.libraryExecutor (·.issuedAt)).execute Sample.collectBinding dispatch
        Sample.running.session Sample.context state state.revision).toOption,
        outcome.stepResult.status = .succeeded ∧
          ∀ scaledDelay, ResultUsable scaledDelay Sample.plan Sample.running.session state
            outcome.stepResult outcome.completedAt := by
  have happened : ∃ state ∈ Sample.running.runtime, ∃ dispatch ∈ Sample.running.active,
      ∃ invocationContext ∈ (validatePreflight Sample.collectBinding dispatch
        Sample.running.session Sample.context state state.revision).toOption,
      ∃ adapter ∈ ((Sample.libraryExecutor (·.issuedAt)).adapters.require
        Sample.collectBinding.providerId).toOption,
      ∃ outcome ∈ ((Sample.libraryExecutor (·.issuedAt)).execute Sample.collectBinding dispatch
        Sample.running.session Sample.context state state.revision).toOption,
        outcome.stepResult.status = .succeeded ∧
          TimesFit (Sample.libraryExecutor (·.issuedAt)) adapter Sample.collectBinding dispatch
            invocationContext state := by
    decide
  obtain ⟨state, started, dispatch, active, _, preflight, _, selected, outcome, returned,
    success, fit⟩ := happened
  exact ⟨state, started, dispatch, active, outcome, returned, success, fun _ =>
    (executorResult_usable_iff Sample.running_reachable started active
      (eq_ok_of_mem_toOption preflight) (eq_ok_of_mem_toOption selected)
      (eq_ok_of_mem_toOption returned)).mpr fit⟩

/-- A success that starts when the provider was asked is refused. -/
theorem executorResult_refused :
    (executionSystem Sample.plan).Reachable Sample.running ∧
      Monotone (Sample.libraryExecutor fun _ => 5).clock ∧
      ∃ state ∈ Sample.running.runtime, ∃ dispatch ∈ Sample.running.active,
        ∃ outcome ∈ ((Sample.libraryExecutor fun _ => 5).execute Sample.collectBinding dispatch
          Sample.running.session Sample.context state state.revision).toOption,
          outcome.stepResult.status = .succeeded ∧
            ∀ scaledDelay, ¬ ResultUsable scaledDelay Sample.plan Sample.running.session state
              outcome.stepResult outcome.completedAt := by
  have happened : ∃ state ∈ Sample.running.runtime, ∃ dispatch ∈ Sample.running.active,
      ∃ outcome ∈ ((Sample.libraryExecutor fun _ => 5).execute Sample.collectBinding dispatch
        Sample.running.session Sample.context state state.revision).toOption,
        outcome.stepResult.status = .succeeded ∧
          ¬ Accepted (completeStep Sample.running.session Sample.plan state outcome.stepResult
            outcome.completedAt state.revision) := by
    decide
  obtain ⟨state, started, dispatch, active, outcome, returned, success, refused⟩ := happened
  refine ⟨Sample.running_reachable, fun _ _ ordered => ?_, state, started, dispatch, active,
    outcome, returned, success, fun _ usable => ?_⟩
  · exact Int.add_le_add_left (Int.ofNat_le.mpr ordered) 4
  · rw [ResultUsable, if_pos success] at usable
    exact refused usable

end PolicyOS.Execution
