import PolicyOS.Execution.ExecutorFit
import PolicyOS.Foundation.Logged

/-!
# Late results

What an execution does to the outside is to read its clock and to ask its adapter. The
deadline is compared with the clock before the adapter is asked, and with the completion that
the adapter reports after it has answered; the clock is read again only where the adapter
raises. A success is therefore one that was asked for in time and reported in time, and whether
it was also received in time is not observed.
-/

namespace PolicyOS.Execution

open Foundation

/-- What an execution does besides computing. -/
inductive ExecutorEvent
  | clockRead (now : DateTime)
  | invoked (request : ProviderInvocationRequest) (context : ProviderInvocationContext)

namespace DeterministicProviderExecutor

variable (executor : DeterministicProviderExecutor) (adapter : ProviderAdapter)
  (binding : DispatchBinding) (dispatch : DispatchRequest)

/-- Ask the adapter, and read the clock again if it raises. -/
def invokedLogged (context : ProviderInvocationContext) :
    Logged ExecutorEvent ExecutionDomainError ProviderInvocationOutcome := do
  Logged.note (.invoked (invocationRequest binding dispatch) context)
  match adapter.invoke (invocationRequest binding dispatch) context with
  | some invocation => pure invocation
  | none => do
    Logged.note (.clockRead (executor.clock 1))
    Logged.silent (ProviderInvocationOutcome.validated
      (failedInvocation binding dispatch (executor.clock 0) (executor.clock 1)))

/-- Run a bound dispatch, noting what is done. -/
def executeLogged (session : ExecutionSession) (context : ExecutionContext)
    (runtimeState : ExecutionRuntimeState) (expectedRuntimeRevision : Nat) :
    Logged ExecutorEvent ExecutionDomainError ProviderExecutionOutcome := do
  let invocationContext ← Logged.silent
    (validatePreflight binding dispatch session context runtimeState expectedRuntimeRevision)
  let adapter ← Logged.silent (executor.adapters.require binding.providerId)
  let descriptor ← Logged.silent (executor.descriptors.require binding.providerId)
  Logged.silent (rejectIf (descriptor.enabled = false)
    ⟨.adapterCapability, "Selected provider descriptor is disabled"⟩)
  Logged.silent (rejectIf (adapter.providerKind ≠ descriptor.providerKind)
    ⟨.adapterCapability, "Selected adapter kind does not match descriptor"⟩)
  Logged.silent (rejectIf (binding.capabilityId ∉ adapter.supportedCapabilities)
    ⟨.adapterCapability, "Selected adapter does not support capability"⟩)
  let startedAt := executor.clock 0
  Logged.note (.clockRead startedAt)
  if invocationContext.cancellationRequested = true then
    Logged.silent (preflightOutcome binding dispatch startedAt .cancelled)
  else if binding.expired startedAt then
    Logged.silent (preflightOutcome binding dispatch startedAt .timedOut)
  else do
    let invocation ← executor.invokedLogged adapter binding dispatch invocationContext
    Logged.silent
      (validateInvocation invocation.toProviderInvocationOutcomeFields binding dispatch)
    if binding.expired invocation.completedAt then
      Logged.silent (lateTimeout invocation.toProviderInvocationOutcomeFields)
    else Logged.silent (normalize invocation.toProviderInvocationOutcomeFields)

variable {executor adapter binding dispatch}

end DeterministicProviderExecutor

section Answers

variable {executor : DeterministicProviderExecutor} {binding : DispatchBinding}
  {dispatch : DispatchRequest} {session : ExecutionSession} {context : ExecutionContext}
  {state : ExecutionRuntimeState} {expectedRevision : Nat} {outcome : ProviderExecutionOutcome}
  {invocation : ProviderInvocationOutcomeFields}

theorem startsWith_clockRead :
    Logged.StartsWith (.clockRead (executor.clock 0))
      (executor.executeLogged binding dispatch session context state expectedRevision) :=
  .silent_bind fun _ => .silent_bind fun _ => .silent_bind fun _ => .silent_bind fun _ =>
    .silent_bind fun _ => .silent_bind fun _ => .note_bind

/-- An adapter is asked only in the context of the call. -/
theorem context_of_invoked {adapter : ProviderAdapter}
    {request : ProviderInvocationRequest} {asking invocationContext : ProviderInvocationContext}
    (asked : .invoked request invocationContext ∈
      (executor.invokedLogged adapter binding dispatch asking).events) :
    asking = invocationContext := by
  simp only [DeterministicProviderExecutor.invokedLogged, Logged.mem_events_bind,
    Logged.events_note, Logged.outcome_note, List.mem_singleton] at asked
  rcases asked with same | ⟨_, -, later⟩
  · cases same
    rfl
  · split at later
    · exact absurd later List.not_mem_nil
    · simp [Logged.mem_events_bind] at later

/-- An adapter is asked only in the context of the preflight, where the clock was before the
deadline and nothing was cancelled. -/
theorem unexpired_of_invoked {request : ProviderInvocationRequest}
    {invocationContext : ProviderInvocationContext}
    (asked : .invoked request invocationContext ∈
      (executor.executeLogged binding dispatch session context state expectedRevision).events) :
    validatePreflight binding dispatch session context state expectedRevision =
        .ok invocationContext ∧
      ¬ binding.expired (executor.clock 0) ∧
      invocationContext.cancellationRequested = false := by
  simp only [DeterministicProviderExecutor.executeLogged, Logged.mem_events_bind,
    Logged.events_silent, Logged.outcome_silent, Logged.events_note, Logged.outcome_note,
    List.not_mem_nil, false_or, List.mem_singleton, reduceCtorEq] at asked
  obtain ⟨asking, preflight, adapter, -, descriptor, -, _, -, _, -, _, -, _, -, asked⟩ := asked
  split_ifs at asked with cancelled expired
  · exact absurd asked List.not_mem_nil
  · exact absurd asked List.not_mem_nil
  · simp only [Logged.mem_events_bind, Logged.events_silent, List.not_mem_nil,
      apply_ite Logged.events, ite_self, and_false, exists_false, or_false] at asked
    obtain rfl := context_of_invoked asked
    exact ⟨preflight, expired, Bool.eq_false_iff.mpr cancelled⟩

theorem fields_of_normalize (normalized : normalize invocation = .ok outcome) :
    outcome.stepResult.toStepResultFields = normalizedResult invocation := by
  simp only [normalize, bind_eq_ok_iff, StepResult.validated_eq_ok_iff, pure_eq_ok_iff]
    at normalized
  obtain ⟨result, fields, rfl⟩ := normalized
  exact fields

/-- An adapter answered an execution, which returns the answer as it was reported or as late. -/
structure AnsweredBy (executor : DeterministicProviderExecutor) (binding : DispatchBinding)
    (dispatch : DispatchRequest) (invocationContext : ProviderInvocationContext)
    (adapter : ProviderAdapter) (reported : ProviderInvocationOutcome) : Prop where
  selected : executor.adapters.require binding.providerId = .ok adapter
  answered : adapter.invoke (invocationRequest binding dispatch) invocationContext = some reported
  inScope : validateInvocation reported.toProviderInvocationOutcomeFields binding dispatch = .ok ()

/-- The outcome of an invocation that is not made is no success. -/
theorem unsuccessful_of_preflightOutcome {now : DateTime} {status : InvocationStatus}
    (unsuccessful : status ≠ .succeeded)
    (returned : preflightOutcome binding dispatch now status = .ok outcome) :
    outcome.stepResult.status ≠ .succeeded := by
  simp only [preflightOutcome, bind_eq_ok_iff, ProviderInvocationOutcome.validated_eq_ok_iff]
    at returned
  obtain ⟨made, isMade, normalized⟩ := returned
  have fields := fields_of_normalize normalized
  rw [isMade] at fields
  rw [congrArg (·.status) fields]
  exact fun success => unsuccessful (InvocationStatus.stepStatus_eq_succeeded_iff.mp success)

theorem discarded_of_lateTimeout (returned : lateTimeout invocation = .ok outcome) :
    outcome.stepResult.status = .timedOut ∧ outcome.stepResult.output = .null ∧
      outcome.stepResult.evidence = [] := by
  have fields := fields_of_normalize returned
  rw [congrArg (·.status) fields, congrArg (·.output) fields, congrArg (·.evidence) fields]
  exact ⟨rfl, rfl, rfl⟩

/-- The adapter is not asked, or it raises, or it answers and the answer is returned as late or
as it was reported. -/
inductive ExecutionCase (executor : DeterministicProviderExecutor) (binding : DispatchBinding)
    (dispatch : DispatchRequest) (events : List ExecutorEvent)
    (outcome : ProviderExecutionOutcome) : Prop
  | unasked (unasked : ∀ request invocationContext, .invoked request invocationContext ∉ events)
      (unsuccessful : outcome.stepResult.status ≠ .succeeded)
  | raised {invocationContext : ProviderInvocationContext} {adapter : ProviderAdapter}
      (asked : .invoked (invocationRequest binding dispatch) invocationContext ∈ events)
      (selected : executor.adapters.require binding.providerId = .ok adapter)
      (raised : adapter.invoke (invocationRequest binding dispatch) invocationContext = none)
      (unsuccessful : outcome.stepResult.status ≠ .succeeded)
  | late {invocationContext : ProviderInvocationContext} {adapter : ProviderAdapter}
      {reported : ProviderInvocationOutcome}
      (asked : .invoked (invocationRequest binding dispatch) invocationContext ∈ events)
      (answered : AnsweredBy executor binding dispatch invocationContext adapter reported)
      (late : binding.expired reported.completedAt)
      (returned : lateTimeout reported.toProviderInvocationOutcomeFields = .ok outcome)
  | inTime {invocationContext : ProviderInvocationContext} {adapter : ProviderAdapter}
      {reported : ProviderInvocationOutcome}
      (asked : .invoked (invocationRequest binding dispatch) invocationContext ∈ events)
      (answered : AnsweredBy executor binding dispatch invocationContext adapter reported)
      (inTime : ¬ binding.expired reported.completedAt)
      (returned : normalize reported.toProviderInvocationOutcomeFields = .ok outcome)

/-- Read back what an execution came to. -/
theorem executionCase_of_execute
    (returned : executor.execute binding dispatch session context state expectedRevision =
      .ok outcome) :
    ExecutionCase executor binding dispatch
      (executor.executeLogged binding dispatch session context state expectedRevision).events
      outcome := by
  simp only [DeterministicProviderExecutor.execute, bind_eq_ok_iff, exists_unit_iff,
    rejectIf_eq_ok_iff] at returned
  obtain ⟨invocationContext, preflight, adapter, selected, descriptor, described, enabled, kind,
    supports, returned⟩ := returned
  split at returned
  · rename_i cancelled
    refine .unasked (fun request asking asked => ?_)
      (unsuccessful_of_preflightOutcome (by decide) returned)
    obtain ⟨own, -, uncancelled⟩ := unexpired_of_invoked asked
    obtain rfl := Except.ok.inj (own.symm.trans preflight)
    exact absurd cancelled (Bool.eq_false_iff.mp uncancelled)
  · rename_i uncancelled
    split at returned
    · rename_i expired
      exact .unasked (fun request asking asked => (unexpired_of_invoked asked).2.1 expired)
        (unsuccessful_of_preflightOutcome (by decide) returned)
    · rename_i unexpired
      have asked : .invoked (invocationRequest binding dispatch) invocationContext ∈
          (executor.executeLogged binding dispatch session context state
            expectedRevision).events := by
        simp [DeterministicProviderExecutor.executeLogged, Logged.mem_events_bind, preflight,
          selected, described, enabled, uncancelled, unexpired,
          DeterministicProviderExecutor.invokedLogged]
        exact ⟨not_not.mp kind, not_not.mp supports⟩
      simp only [bind_eq_ok_iff, exists_unit_iff] at returned
      obtain ⟨reported, answered, inScope, returned⟩ := returned
      rw [DeterministicProviderExecutor.invoked] at answered
      split at answered
      · rename_i answer isAnswer
        obtain rfl := Except.ok.inj answered
        have answered : AnsweredBy executor binding dispatch invocationContext adapter answer :=
          ⟨selected, isAnswer, inScope⟩
        split at returned
        · exact .late asked answered ‹_› returned
        · exact .inTime asked answered ‹_› returned
      · rename_i isRaised
        rw [ProviderInvocationOutcome.validated_eq_ok_iff] at answered
        refine .raised asked selected isRaised fun success => ?_
        split at returned
        · rw [(discarded_of_lateTimeout returned).1] at success
          cases success
        · rw [congrArg (·.status) (fields_of_normalize returned), answered] at success
          cases success

/-- A success was asked of an adapter, which reports that it succeeded, that it completed before
the deadline and not before it started; it is returned with the times that are reported. -/
structure ReportedInTime (executor : DeterministicProviderExecutor) (binding : DispatchBinding)
    (dispatch : DispatchRequest) (events : List ExecutorEvent) (result : StepResult)
    (invocationContext : ProviderInvocationContext) (adapter : ProviderAdapter)
    (reported : ProviderInvocationOutcome) : Prop where
  asked : .invoked (invocationRequest binding dispatch) invocationContext ∈ events
  answered : AnsweredBy executor binding dispatch invocationContext adapter reported
  succeeded : reported.status = .succeeded
  inTime : ¬ binding.expired reported.completedAt
  ordered : reported.startedAt ≤ reported.completedAt
  times : result.startedAt = some reported.startedAt ∧
    result.completedAt = some reported.completedAt

theorem ordered_of_reported (reported : ProviderInvocationOutcome) :
    reported.startedAt ≤ reported.completedAt := by
  have valid := reported.valid
  simp only [ProviderInvocationOutcomeFields.consistent, bind_eq_ok_iff, exists_unit_iff,
    rejectIf_eq_ok_iff] at valid
  exact not_lt.mp valid.2.2.2.1

/-- An adapter is asked only after the clock was read before the deadline; a success is one that
the adapter reports in time, and an answer that it reports at or after the deadline is returned
as a timeout, with what it found discarded. -/
theorem lateResults_discarded (executor : DeterministicProviderExecutor)
    (binding : DispatchBinding) (dispatch : DispatchRequest) (session : ExecutionSession)
    (context : ExecutionContext) (state : ExecutionRuntimeState) (expectedRevision : Nat) :
    let events :=
      (executor.executeLogged binding dispatch session context state expectedRevision).events
    (∀ request invocationContext, .invoked request invocationContext ∈ events →
      (∃ later, events = .clockRead (executor.clock 0) :: later) ∧
        ¬ binding.expired (executor.clock 0)) ∧
    ∀ outcome, executor.execute binding dispatch session context state expectedRevision =
        .ok outcome →
      (outcome.stepResult.status = .succeeded → ∃ invocationContext adapter reported,
        ReportedInTime executor binding dispatch events outcome.stepResult invocationContext
          adapter reported) ∧
      ∀ invocationContext adapter reported,
        .invoked (invocationRequest binding dispatch) invocationContext ∈ events →
        AnsweredBy executor binding dispatch invocationContext adapter reported →
        binding.expired reported.completedAt →
          outcome.stepResult.status = .timedOut ∧ outcome.stepResult.output = .null ∧
            outcome.stepResult.evidence = [] := by
  intro events
  refine ⟨fun request asking asked => ⟨?_, (unexpired_of_invoked asked).2.1⟩,
    fun outcome returned => ⟨fun success => ?_, fun asking adapter reported asked answered late => ?_⟩⟩
  · exact startsWith_clockRead.resolve_left (List.ne_nil_of_mem asked)
  · cases executionCase_of_execute returned with
    | unasked _ unsuccessful => exact absurd success unsuccessful
    | raised _ _ _ unsuccessful => exact absurd success unsuccessful
    | late _ _ _ discarded =>
        rw [(discarded_of_lateTimeout discarded).1] at success
        cases success
    | inTime asked answered inTime normalized =>
        have fields := fields_of_normalize normalized
        rw [congrArg (·.status) fields] at success
        exact ⟨_, _, _, asked, answered, InvocationStatus.stepStatus_eq_succeeded_iff.mp success,
          inTime, ordered_of_reported _,
          congrArg (·.startedAt) fields, congrArg (·.completedAt) fields⟩
  · have same {other : ProviderInvocationContext}
        (isOther : .invoked (invocationRequest binding dispatch) other ∈ events) :
        asking = other :=
      Except.ok.inj ((unexpired_of_invoked asked).1.symm.trans (unexpired_of_invoked isOther).1)
    cases executionCase_of_execute returned with
    | unasked unasked _ => exact absurd asked (unasked _ _)
    | raised isOther selected raised _ =>
        obtain rfl := same isOther
        obtain rfl := Except.ok.inj (answered.selected.symm.trans selected)
        exact absurd (answered.answered.symm.trans raised) nofun
    | late _ _ _ discarded => exact discarded_of_lateTimeout discarded
    | inTime isOther isAnswer inTime _ =>
        obtain rfl := same isOther
        obtain rfl := Except.ok.inj (answered.selected.symm.trans isAnswer.selected)
        obtain rfl := Option.some.inj (answered.answered.symm.trans isAnswer.answered)
        exact absurd late inTime

end Answers

/-- What the clock of the executor would tell of a success: the result was received before the
deadline, and its times are between the two readings around the invocation. -/
structure ReceivedInTime (executor : DeterministicProviderExecutor) (binding : DispatchBinding)
    (outcome : ProviderExecutionOutcome) : Prop where
  received : ¬ binding.expired (executor.clock 1)
  started : executor.clock 0 ≤ outcome.startedAt
  completed : outcome.completedAt ≤ executor.clock 1

namespace Sample

/-- The collection, with a deadline. -/
def urgentBinding : DispatchBinding :=
  { collectBinding with deadline := some 4000, validDeadline := by decide }

/-- An executor whose adapter answers after the deadline, with a success that it reports to have
completed before. -/
def slowExecutor : DeterministicProviderExecutor :=
  { libraryExecutor fun _ => 5 with clock := fun reading => 4 + reading * 4996 }

end Sample

/-- The answer is received after the deadline, and returned as a success. -/
theorem late_success_returned :
    Monotone Sample.slowExecutor.clock ∧
      ∃ state ∈ Sample.running.runtime, ∃ dispatch ∈ Sample.running.active,
        ∃ outcome ∈ (Sample.slowExecutor.execute Sample.urgentBinding dispatch
          Sample.running.session Sample.context state state.revision).toOption,
          outcome.stepResult.status = .succeeded ∧
            ¬ ReceivedInTime Sample.slowExecutor Sample.urgentBinding outcome := by
  have happened : Sample.urgentBinding.expired (Sample.slowExecutor.clock 1) ∧
      ∃ state ∈ Sample.running.runtime, ∃ dispatch ∈ Sample.running.active,
        ∃ outcome ∈ (Sample.slowExecutor.execute Sample.urgentBinding dispatch
          Sample.running.session Sample.context state state.revision).toOption,
          outcome.stepResult.status = .succeeded := by
    decide
  obtain ⟨expired, state, started, dispatch, active, outcome, returned, success⟩ := happened
  refine ⟨fun earlier later ordered => ?_, state, started, dispatch, active, outcome, returned,
    success, fun inTime => inTime.received expired⟩
  have isLater : (earlier : Int) ≤ later := Int.ofNat_le.mpr ordered
  exact Int.add_le_add_left (Int.mul_le_mul_of_nonneg_right isLater (by decide)) 4

end PolicyOS.Execution
