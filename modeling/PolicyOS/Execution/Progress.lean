import PolicyOS.Execution.RuntimeContract

/-!
# Progress and dependency safety

An execution that has neither ended nor been asked to cancel always has a step
that runs or can still be attempted: the first unfinished step in topological
order waits for nothing. Steps are handed out only after everything they depend
on has succeeded, and each running step was handed out exactly once.
-/

namespace PolicyOS.Execution

open Foundation

variable {plan : ExecutionPlan} {execution : ExecutionRun} {operation : RuntimeOperation}
  {expectedRevision : Nat} {transition : RuntimeTransition} {session : ExecutionSession}
  {state : ExecutionRuntimeState} {items nexts : List RuntimeStepState}
  {item next current replacement : RuntimeStepState} {occurredAt : DateTime}

/-! ## Some step can proceed -/

/-- A step can still be attempted: everything it depends on has succeeded, attempts
are left, and at every instant it is ready or waits for its retry time. -/
structure Attemptable (plan : ExecutionPlan) (state : ExecutionRuntimeState)
    (step : ExecutionStep) (item : RuntimeStepState) : Prop where
  unended : item.status ∉ RuntimeStepStatus.terminal
  met : allDependenciesSucceeded step state.stepStates
  attemptsLeft : item.attemptCount < step.retryPolicy.maxAttempts
  ready : ∀ now, step.stepId ∈ readyStepIds plan state (some now) ∨ awaitsRetry item (some now)

/-- Some step runs or can still be attempted. -/
def CanProceed (plan : ExecutionPlan) (state : ExecutionRuntimeState) : Prop :=
  ∃ step ∈ plan.steps, ∃ item ∈ state.stepStates, item.stepId = step.stepId ∧
    (item.status = .running ∨ Attemptable plan state step item)

/-- A waiting step whose dependencies have all ended can be attempted. -/
theorem RuntimeSound.attemptable (sound : RuntimeSound plan session state)
    (unrequested : state.cancellationRequested = false) {step : ExecutionStep}
    (isStep : step ∈ plan.steps) (present : item ∈ state.stepStates)
    (own : item.stepId = step.stepId) (waits : item.status ∈ RuntimeStepStatus.waiting)
    (dependenciesEnded : ∀ dependency ∈ step.dependencies, ∀ other ∈ state.stepStates,
      other.stepId = dependency → other.status ∈ RuntimeStepStatus.terminal) :
    Attemptable plan state step item := by
  have unended := RuntimeStepStatus.not_terminal_of_waiting waits
  have met : allDependenciesSucceeded step state.stepStates := by
    intro dependency depends
    obtain ⟨otherStep, isOther, rfl⟩ := List.mem_map.mp (plan.dependency_mem isStep depends)
    obtain ⟨other, otherPresent, same⟩ := sound.steps.exists_item isOther
    have ended := dependenciesEnded _ depends other otherPresent same
    rcases (RuntimeStepStatus.mem_terminal_iff _).mp ended with success | failed
    · exact (dependencySucceeded_iff sound.steps.distinct).mpr ⟨other, otherPresent, same, success⟩
    · exact absurd (sound.propagated step isStep item present own
        ((hasFailedRequiredDependency_iff sound.steps.distinct).mpr
          ⟨_, depends, other, otherPresent, same, failed⟩)) unended
  refine
    { unended, met
      attemptsLeft := (sound.steps.of_step present isStep own.symm).attemptsLeft waits
      ready := fun now => ?_ }
  by_cases awaits : awaitsRetry item (some now)
  · exact .inr awaits
  · have listed : statesById state.stepStates step.stepId = some item :=
      (statesById_eq_some_iff sound.steps.distinct).mpr ⟨present, own⟩
    exact .inl (mem_readyStepIds.mpr
      ⟨unrequested, step, isStep, rfl, item, listed, waits, awaits, met⟩)

/-- An active execution without a requested cancellation can proceed. -/
theorem RuntimeSound.canProceed (sound : RuntimeSound plan session state)
    (active : ActiveRuntime session state) (unrequested : state.cancellationRequested = false) :
    CanProceed plan state := by
  obtain ⟨order, _, ordered, complete⟩ := plan.exists_order
  obtain ⟨pending, pendingPresent, pendingUnended⟩ := active.unended
  obtain ⟨pendingStep, isPending, pendingOwn⟩ := sound.steps.sound pending pendingPresent
  -- The first step in the order that has not ended depends only on steps that have.
  obtain ⟨stepId, _, ⟨item, present, own, unended⟩, unblocked⟩ :=
    ordered.exists_unblocked
      (fun stepId => ∃ item ∈ state.stepStates, item.stepId = stepId ∧
        item.status ∉ RuntimeStepStatus.terminal)
      ⟨pendingStep.stepId, complete _ (List.mem_map_of_mem isPending), pending, pendingPresent,
        pendingOwn.stepId, pendingUnended⟩
  obtain ⟨step, isStep, itsOwn⟩ := sound.steps.sound item present
  have sameStep : stepId = step.stepId := own.symm.trans itsOwn.stepId
  rw [sameStep, plan.dependenciesOf_step isStep] at unblocked
  refine ⟨step, isStep, item, present, itsOwn.stepId, ?_⟩
  rcases item.status.waiting_or_running_or_terminal with waits | runs | ended
  · right
    refine sound.attemptable unrequested isStep present itsOwn.stepId waits ?_
    intro dependency depends other otherPresent same
    by_contra otherUnended
    exact unblocked dependency depends ⟨other, otherPresent, same, otherUnended⟩
  · exact .inl runs
  · exact absurd ended unended

/-! ## Dispatches that were not answered yet -/

/-- A running step is the attempt a dispatch was made for. -/
structure IsAttemptOf (item : RuntimeStepState) (request : DispatchRequest) : Prop where
  stepId : item.stepId = request.stepId
  runs : item.status = .running
  dispatched : item.dispatchId = some request.dispatchId
  started : item.startedAt = some request.issuedAt
  attempt : item.attemptCount = request.attempt

/-- Each running step has exactly one dispatch that was not answered, and each such
dispatch is of a running step. -/
structure DispatchesSound (items : List RuntimeStepState) (active : List DispatchRequest) :
    Prop where
  distinct : (active.map (·.stepId)).Nodup
  attempted : ∀ request ∈ active, ∃ item ∈ items, IsAttemptOf item request
  dispatched : ∀ item ∈ items, item.status = .running → ∃ request ∈ active,
    request.stepId = item.stepId

namespace DispatchesSound

variable {active : List DispatchRequest} {stepId : String}

theorem rewritten (sound : DispatchesSound items active)
    (same : ∀ item, item.status = .running → (item ∈ nexts ↔ item ∈ items)) :
    DispatchesSound nexts active where
  distinct := sound.distinct
  attempted := by
    intro request isActive
    obtain ⟨item, present, attempt⟩ := sound.attempted request isActive
    exact ⟨item, (same item attempt.runs).mpr present, attempt⟩
  dispatched := fun item isNext runs => sound.dispatched item ((same item runs).mp isNext) runs

/-- When one step stops running, its dispatch is answered and the others stay. -/
theorem answered (sound : DispatchesSound items active) (same : replacement.stepId = stepId)
    (stops : replacement.status ≠ .running) :
    DispatchesSound (items.map (replacedBy replacement)) (active.filter (·.stepId ≠ stepId)) where
  distinct := sound.distinct.sublist (List.filter_sublist.map _)
  attempted := by
    intro request listed
    obtain ⟨isActive, isOther⟩ := List.mem_filter.mp listed
    obtain ⟨item, present, attempt⟩ := sound.attempted request isActive
    have different : item.stepId ≠ replacement.stepId := by
      rw [attempt.stepId, same]
      exact of_decide_eq_true isOther
    exact ⟨item, mem_replaced_of_ne present different, attempt⟩
  dispatched := by
    intro next isNext runs
    rcases mem_replaced_cases isNext with rfl | ⟨present, different⟩
    · exact absurd runs stops
    · obtain ⟨request, isActive, own⟩ := sound.dispatched next present runs
      have isOther : request.stepId ≠ stepId := by rwa [own, ← same]
      exact ⟨request, List.mem_filter.mpr ⟨isActive, decide_eq_true isOther⟩, own⟩

theorem filter_eq_self (sound : DispatchesSound items active)
    (distinct : (items.map (·.stepId)).Nodup) (present : item ∈ items)
    (own : item.stepId = stepId) (idle : item.status ≠ .running) :
    active.filter (·.stepId ≠ stepId) = active := by
  refine List.filter_eq_self.mpr fun request isActive => decide_eq_true fun same => ?_
  obtain ⟨other, otherPresent, attempt⟩ := sound.attempted request isActive
  obtain rfl := List.inj_on_of_nodup_map distinct present otherPresent
    (own.trans (same.symm.trans attempt.stepId.symm))
  exact idle attempt.runs

/-- When one step starts to run, its dispatch is added. -/
theorem handedOut (sound : DispatchesSound items active)
    (distinct : (items.map (·.stepId)).Nodup) (isCurrent : current ∈ items)
    (same : replacement.stepId = current.stepId) (idle : current.status ≠ .running)
    {request : DispatchRequest} (attempt : IsAttemptOf replacement request) :
    DispatchesSound (items.map (replacedBy replacement)) (active ++ [request]) := by
  have others : ∀ other ∈ active, other.stepId ≠ request.stepId := by
    intro other isActive sameStep
    obtain ⟨item, present, itsAttempt⟩ := sound.attempted other isActive
    obtain rfl := List.inj_on_of_nodup_map distinct present isCurrent
      (itsAttempt.stepId.trans (sameStep.trans (attempt.stepId.symm.trans same)))
    exact idle itsAttempt.runs
  refine ⟨?_, ?_, ?_⟩
  · rw [List.map_append, List.nodup_append]
    refine ⟨sound.distinct, List.nodup_singleton _, ?_⟩
    rintro _ isEarlier _ isLast rfl
    obtain ⟨other, isActive, isSame⟩ := List.mem_map.mp isEarlier
    exact others other isActive (isSame.trans (List.mem_singleton.mp isLast))
  · intro listed isListed
    rcases List.mem_append.mp isListed with isActive | isLast
    · obtain ⟨item, present, itsAttempt⟩ := sound.attempted listed isActive
      refine ⟨item, mem_replaced_of_ne present fun sameStep => ?_, itsAttempt⟩
      exact others listed isActive
        (itsAttempt.stepId.symm.trans (sameStep.trans attempt.stepId))
    · obtain rfl := List.mem_singleton.mp isLast
      exact ⟨replacement, replacement_mem isCurrent same, attempt⟩
  · intro next isNext runs
    rcases mem_replaced_cases isNext with rfl | ⟨present, _⟩
    · exact ⟨request, List.mem_append_right _ (List.mem_singleton.mpr rfl), attempt.stepId.symm⟩
    · obtain ⟨other, isActive, own⟩ := sound.dispatched next present runs
      exact ⟨other, List.mem_append_left _ isActive, own⟩

end DispatchesSound

/-- A refresh neither starts nor stops a step. -/
theorem StatesSound.running_refreshed_iff (sound : StatesSound plan occurredAt state.stepStates)
    (runs : item.status = .running) :
    item ∈ (refreshReady plan state occurredAt).1.stepStates ↔ item ∈ state.stepStates := by
  constructor
  · intro isNext
    exact (sound.mem_or_ready_of_mem_refreshed isNext).resolve_right fun ready =>
      absurd (ready.symm.trans runs) (by decide)
  · intro present
    refine List.mem_map.mpr ⟨item, present, ?_⟩
    exact (refreshed_cases sound.distinct present).resolve_right fun waits =>
      absurd (runs ▸ waits.1) (by decide)

theorem SettledStates.running_iff (settles : SettledStates plan occurredAt items nexts)
    (runs : item.status = .running) : item ∈ nexts ↔ item ∈ items := by
  constructor
  · exact fun isNext => settles.mem_of_running isNext runs
  · intro present
    obtain ⟨next, isNext, step, _, _, rfl⟩ := exists_rewritten_of_mem settles present
    have unwaiting : ¬ (item.status ∈ RuntimeStepStatus.waiting ∧
        hasFailedRequiredDependency step (statesById nexts)) :=
      fun skips => absurd (runs ▸ skips.1) (by decide)
    rwa [settled, if_neg unwaiting] at isNext

/-- A step that was handed out is the attempt of its request. -/
theorem DispatchEffect.isAttempt {context : ExecutionContext} {stepId : String} {dispatchId : UUID}
    {issuedAt : DateTime} {deadline : Option DateTime} {step : ExecutionStep}
    {request : DispatchRequest}
    (effect : DispatchEffect plan session context state stepId dispatchId issuedAt deadline step
      current request transition) :
    IsAttemptOf (current.dispatched (current.attemptCount + 1) issuedAt dispatchId) request where
  stepId := by
    rw [effect.requested]
    exact effect.isCurrent.2.trans effect.isStep.2.symm
  runs := rfl
  dispatched := by rw [effect.requested]; rfl
  started := by rw [effect.requested]; rfl
  attempt := by rw [effect.requested]; rfl

/-- An accepted operation on a started execution keeps the dispatches sound. -/
theorem call_dispatches (started : execution.runtime = some state)
    (sound : RuntimeSound plan execution.session state)
    (dispatches : DispatchesSound state.stepStates execution.active)
    (accepted : execution.call plan operation expectedRevision = .ok transition) :
    DispatchesSound transition.state.stepStates
      (ExecutionRun.activeAfter execution.active operation transition) := by
  cases operation with
  | start context startedAt =>
      have effect := initializeRuntime_effect accepted
      exact absurd (sound.status.symm.trans effect.created) (sessionStatusFor_ne_created _ _)
  | dispatch context stepId dispatchId issuedAt deadline =>
      simp only [ExecutionRun.call, started] at accepted
      obtain ⟨step, current, request, effect⟩ := createDispatchRequest_effect sound accepted
      have idle : current.status ≠ .running := fun runs => absurd (runs ▸ effect.waits) (by decide)
      have same : (current.dispatched (current.attemptCount + 1) issuedAt dispatchId).stepId =
          current.stepId := rfl
      rw [ExecutionRun.activeAfter, effect.answers]
      exact dispatches.handedOut sound.steps.distinct effect.isCurrent.1 same idle effect.isAttempt
  | complete result occurredAt =>
      simp only [ExecutionRun.call, started] at accepted
      rcases completeStep_effect sound accepted with
        ⟨item, present, own, ended, effect⟩ | ⟨current, finish, effect⟩
      · have idle : item.status ≠ .running := fun runs => absurd (runs ▸ ended) (by decide)
        rw [ExecutionRun.activeAfter,
          dispatches.filter_eq_self sound.steps.distinct present own idle, effect.answers]
        exact dispatches
      · have steps := effect.replaced_sound sound
        have same : (current.succeeded result occurredAt).stepId = result.stepId :=
          effect.isCurrent.2
        rw [ExecutionRun.activeAfter, effect.answers,
          (finishIfTerminal_spec effect.finished).stepStates]
        exact (dispatches.answered same (by simp)).rewritten
          fun _ runs => steps.running_refreshed_iff runs
  | fail stepId error occurredAt retryDecision nextRetryAt =>
      simp only [ExecutionRun.call, started] at accepted
      rcases failStep_effect sound accepted with
        ⟨step, current, effect⟩ | ⟨current, result, items, finish, effect⟩
      · have same : (current.retryScheduled error nextRetryAt).stepId = stepId :=
          effect.isCurrent.2
        rw [ExecutionRun.activeAfter, effect.answers]
        exact dispatches.answered same (by simp)
      · have stops : (current.failed error result occurredAt).status ≠ .running := by
          rw [RuntimeStepState.failed_status]
          split <;> decide
        have same : (current.failed error result occurredAt).stepId = stepId :=
          effect.isCurrent.2
        rw [ExecutionRun.activeAfter, effect.answers,
          (finishIfTerminal_spec effect.finished).stepStates]
        exact (dispatches.answered same stops).rewritten
          fun _ runs => effect.settles.running_iff runs
  | requestCancellation requestedAt =>
      simp only [ExecutionRun.call, started] at accepted
      rcases requestCancellation_effect accepted with effect | effect <;>
        rw [ExecutionRun.activeAfter, effect.answers] <;> exact dispatches
  | applyCancellation occurredAt =>
      simp only [ExecutionRun.call, started] at accepted
      obtain ⟨items, result, effect⟩ := applyCancellation_effect sound accepted
      rw [ExecutionRun.activeAfter, effect.answers]
      refine ⟨List.nodup_nil, fun _ listed => absurd listed List.not_mem_nil, ?_⟩
      intro next isNext runs
      exact absurd (runs ▸ StatesSound.terminal_of_cancelled effect.cancelled isNext) (by decide)

/-- Before it is started, an execution has no dispatches. -/
structure DispatchingSound (plan : ExecutionPlan) (execution : ExecutionRun) : Prop where
  sound : ExecutionSound plan execution
  unstarted : execution.runtime = none → execution.active = []
  started : ∀ state, execution.runtime = some state →
    DispatchesSound state.stepStates execution.active

/-- An accepted operation keeps it. -/
theorem DispatchingSound.after (dispatching : DispatchingSound plan execution)
    (accepted : execution.call plan operation expectedRevision = .ok transition) :
    DispatchingSound plan (execution.after operation transition) := by
  refine ⟨dispatching.sound.after accepted, nofun, ?_⟩
  rintro state isState
  obtain rfl := Option.some.inj isState
  cases started : execution.runtime with
  | none =>
      obtain ⟨context, startedAt, rfl, effect⟩ := call_unstarted started accepted
      have none : ExecutionRun.activeAfter execution.active (.start context startedAt) transition =
          [] := dispatching.unstarted started
      rw [ExecutionRun.after, none]
      refine ⟨List.nodup_nil, fun _ listed => absurd listed List.not_mem_nil, ?_⟩
      intro item present runs
      rw [effect.newState] at present
      obtain ⟨step, _, rfl⟩ := List.mem_map.mp present
      exact absurd (runs ▸ (initialStepState_spec startedAt step).1) (by decide)
  | some state =>
      exact call_dispatches started (dispatching.sound.runtime state started)
        (dispatching.started state started) accepted

/-- The invariant of all runs of a plan, with the dispatches. -/
def dispatchingInvariant (plan : ExecutionPlan) : (executionSystem plan).Invariant where
  Holds := DispatchingSound plan
  initial := by
    rintro execution ⟨valid, unstarted, none⟩
    refine ⟨(executionInvariant plan).initial _ ⟨valid, unstarted, none⟩, fun _ => none, ?_⟩
    intro state isState
    rw [unstarted] at isState
    cases isState
  preserved := by
    rintro execution ⟨operation, expectedRevision⟩ _ dispatching ⟨transition, accepted, rfl⟩
    exact dispatching.after accepted

/-- A dispatch is answered only for a step whose dependencies have all succeeded. -/
theorem dispatchRequest_met (sound : ExecutionSound plan execution)
    (accepted : execution.call plan operation expectedRevision = .ok transition)
    {request : DispatchRequest} (isRequest : transition.dispatchRequest = some request) :
    ∃ state, execution.runtime = some state ∧ ∃ step ∈ plan.steps,
      step.stepId = request.stepId ∧ allDependenciesSucceeded step state.stepStates := by
  cases started : execution.runtime with
  | none =>
      obtain ⟨_, _, _, effect⟩ := call_unstarted started accepted
      rw [effect.undispatched] at isRequest
      cases isRequest
  | some state =>
      have runtime := sound.runtime state started
      cases operation with
      | start context startedAt =>
          rw [(initializeRuntime_effect accepted).undispatched] at isRequest
          cases isRequest
      | dispatch context stepId dispatchId issuedAt deadline =>
          simp only [ExecutionRun.call, started] at accepted
          obtain ⟨step, current, issued, effect⟩ := createDispatchRequest_effect runtime accepted
          rw [effect.answers, Option.some.injEq] at isRequest
          refine ⟨state, rfl, step, effect.isStep.1, ?_, effect.met⟩
          rw [← isRequest, effect.requested]
      | complete result occurredAt =>
          simp only [ExecutionRun.call, started] at accepted
          rcases completeStep_effect runtime accepted with ⟨_, _, _, _, effect⟩ | ⟨_, _, effect⟩ <;>
            rw [effect.answers] at isRequest <;> cases isRequest
      | fail stepId error occurredAt retryDecision nextRetryAt =>
          simp only [ExecutionRun.call, started] at accepted
          rcases failStep_effect runtime accepted with ⟨_, _, effect⟩ | ⟨_, _, _, _, effect⟩ <;>
            rw [effect.answers] at isRequest <;> cases isRequest
      | requestCancellation requestedAt =>
          simp only [ExecutionRun.call, started] at accepted
          rcases requestCancellation_effect accepted with effect | effect <;>
            rw [effect.answers] at isRequest <;> cases isRequest
      | applyCancellation occurredAt =>
          simp only [ExecutionRun.call, started] at accepted
          obtain ⟨_, _, effect⟩ := applyCancellation_effect runtime accepted
          rw [effect.answers] at isRequest
          cases isRequest

/-- At every instant of every run: an execution that has not ended and was not asked
to cancel can proceed, every step behind a failed one has ended, and each running
step has exactly one unanswered dispatch. A dispatch is made only for a step whose
dependencies have all succeeded. -/
theorem progress (reachable : (executionSystem plan).Reachable execution) :
    (∀ state, execution.runtime = some state →
      (state.status ∉ ExecutionStatus.terminal → state.cancellationRequested = false →
        CanProceed plan state) ∧
      FailuresPropagated plan state.stepStates ∧
      DispatchesSound state.stepStates execution.active) ∧
    ∀ operation expectedRevision transition request,
      execution.call plan operation expectedRevision = .ok transition →
      transition.dispatchRequest = some request →
        ∃ state, execution.runtime = some state ∧ ∃ step ∈ plan.steps,
          step.stepId = request.stepId ∧ allDependenciesSucceeded step state.stepStates := by
  have dispatching : DispatchingSound plan execution :=
    (dispatchingInvariant plan).of_reachable reachable
  refine ⟨fun state started => ?_, fun _ _ _ _ accepted isRequest =>
    dispatchRequest_met dispatching.sound accepted isRequest⟩
  have sound := dispatching.sound.runtime state started
  exact ⟨fun unended unrequested => sound.canProceed (sound.active unended) unrequested,
    sound.propagated, dispatching.started state started⟩

/-- The sample execution can proceed while two of its steps are running. -/
theorem progress_running :
    ∃ state, Sample.running.runtime = some state ∧ CanProceed Sample.plan state := by
  have isStarted : Sample.running.runtime.isSome := by decide
  obtain ⟨state, started⟩ := Option.isSome_iff_exists.mp isStarted
  have unended : ∀ state ∈ Sample.running.runtime, state.status ∉ ExecutionStatus.terminal ∧
      state.cancellationRequested = false := by decide
  exact ⟨state, started, ((progress Sample.running_reachable).1 state started).1
    (unended state started).1 (unended state started).2⟩

end PolicyOS.Execution
