import PolicyOS.Execution.OperationEffects
import PolicyOS.Foundation.Transition

/-!
# Runs of one execution

An execution is driven by one operation after another, each called with the
session and state the one before it answered. Besides these two, a run keeps the
dispatches that were handed out and not answered yet, which the runtime itself
does not list.
-/

namespace PolicyOS.Execution

open Foundation

/-- One operation of a caller. -/
inductive RuntimeOperation
  | start (context : ExecutionContext) (startedAt : DateTime)
  | dispatch (context : ExecutionContext) (stepId : String) (dispatchId : UUID)
      (issuedAt : DateTime) (deadline : Option DateTime)
  | complete (result : StepResult) (occurredAt : DateTime)
  | fail (stepId : String) (error : ExecutionError) (occurredAt : DateTime)
      (retryDecision : RetryDecision) (nextRetryAt : Option DateTime)
  | requestCancellation (requestedAt : DateTime)
  | applyCancellation (occurredAt : DateTime)

/-- A session, its runtime state once it was initialised, and the dispatches that
were not answered yet. -/
structure ExecutionRun where
  session : ExecutionSession
  runtime : Option ExecutionRuntimeState := none
  active : List DispatchRequest := []
  deriving DecidableEq

namespace ExecutionRun

/-- What an operation answers. Before initialisation there is no state to call
any other operation with. -/
def call (plan : ExecutionPlan) (execution : ExecutionRun) (operation : RuntimeOperation)
    (expectedRevision : Nat) : Except ExecutionDomainError RuntimeTransition :=
  match operation, execution.runtime with
  | .start context startedAt, _ =>
      initializeRuntime execution.session plan context startedAt expectedRevision
  | .dispatch context stepId dispatchId issuedAt deadline, some state =>
      createDispatchRequest execution.session context plan state stepId dispatchId issuedAt
        deadline expectedRevision
  | .complete result occurredAt, some state =>
      completeStep execution.session plan state result occurredAt expectedRevision
  | .fail stepId error occurredAt retryDecision nextRetryAt, some state =>
      failStep execution.session plan state stepId error occurredAt retryDecision nextRetryAt
        expectedRevision
  | .requestCancellation requestedAt, some state =>
      requestCancellation execution.session state requestedAt expectedRevision
  | .applyCancellation occurredAt, some state =>
      applyCancellation execution.session plan state occurredAt expectedRevision
  | _, none => .error ⟨.contract, "runtime is not initialized"⟩

/-- The unanswered dispatches after an operation: a completed or failed step
answers its own, a cancelled execution answers all. -/
def activeAfter (active : List DispatchRequest) (operation : RuntimeOperation)
    (transition : RuntimeTransition) : List DispatchRequest :=
  match operation with
  | .start .. | .requestCancellation _ => active
  | .dispatch .. => active ++ transition.dispatchRequest.toList
  | .complete result _ => active.filter (·.stepId ≠ result.stepId)
  | .fail stepId .. => active.filter (·.stepId ≠ stepId)
  | .applyCancellation _ => []

/-- The execution a transition leads to. -/
def after (execution : ExecutionRun) (operation : RuntimeOperation)
    (transition : RuntimeTransition) : ExecutionRun where
  session := transition.session
  runtime := some transition.state
  active := activeAfter execution.active operation transition

/-- The execution after a list of operations, each with the revision its caller
expects, if all of them are accepted. -/
def run (plan : ExecutionPlan) (execution : ExecutionRun) :
    List (RuntimeOperation × Nat) → Option ExecutionRun
  | [] => some execution
  | (operation, expectedRevision) :: calls =>
      match execution.call plan operation expectedRevision with
      | .ok transition => run plan (execution.after operation transition) calls
      | .error _ => none

end ExecutionRun

/-- All runs of a plan: from a valid session, by accepted operations. -/
def executionSystem (plan : ExecutionPlan) :
    TransitionSystem ExecutionRun (RuntimeOperation × Nat) where
  Initial execution :=
    execution.session.lifecycle = .ok () ∧ execution.runtime = none ∧ execution.active = []
  Step execution label next :=
    ∃ transition, execution.call plan label.1 label.2 = .ok transition ∧
      next = execution.after label.1 transition

variable {calls : List (RuntimeOperation × Nat)}

/-- A run that returns is a run of the system. -/
theorem steps_of_run {plan : ExecutionPlan} {execution final : ExecutionRun}
    (ran : execution.run plan calls = some final) :
    (executionSystem plan).Steps execution calls final := by
  induction calls generalizing execution with
  | nil =>
      cases ran
      exact .refl
  | cons first calls ih =>
      obtain ⟨operation, expectedRevision⟩ := first
      rw [ExecutionRun.run] at ran
      split at ran
      · rename_i transition accepted
        exact .cons ⟨transition, accepted, rfl⟩ (ih ran)
      · cases ran

theorem reachable_of_run {plan : ExecutionPlan} {session : ExecutionSession}
    (valid : session.lifecycle = .ok ()) (ran : (ExecutionRun.run plan { session } calls).isSome) :
    (executionSystem plan).Reachable ((ExecutionRun.run plan { session } calls).get ran) :=
  ⟨{ session }, calls, ⟨valid, rfl, rfl⟩, steps_of_run (Option.some_get ran).symm⟩

namespace Sample

/-- A step of the sample plan. -/
def step (stepId : String) (sequence : Nat) (dependencies : List String) (required : Bool)
    (maxAttempts : {attempts : Nat // 1 ≤ attempts ∧ attempts ≤ 10}) : ExecutionStep where
  stepId := stepId
  sequence := sequence
  dependencies := dependencies
  executionId := 2
  kind := .knowledgeQuery
  instruction := "Read the contract"
  target := "knowledge.search"
  retryPolicy :=
    { maxAttempts := maxAttempts.val
      bounds := ⟨maxAttempts.property, by decide⟩
      delayOrder := RetryPolicy.once.delayOrder }
  classification := .internal
  required := required

/-- A plan that collects and reviews independently, and reports what it collected. -/
def plan : ExecutionPlan where
  planId := 1
  executionId := 2
  version := 1
  objective := "Review the contract"
  steps := [step "collect" 1 [] true ⟨2, by decide⟩, step "review" 2 [] true ⟨1, by decide⟩,
    step "report" 3 ["collect"] false ⟨1, by decide⟩]
  createdAt := 0
  plannerName := "planner"
  classification := .internal

/-- A session created for the plan. -/
def session : ExecutionSession where
  sessionId := 3
  executionId := 2
  planId := 1
  organizationId := 4
  actorId := 5
  correlationId := "review-1"
  classification := .internal
  createdAt := 0
  updatedAt := 0

/-- The context its calls are made in. -/
def context : ExecutionContext where
  executionId := 2
  organizationId := 4
  actorId := 5
  classification := .internal
  correlationId := "review-1"

/-- The result of a successful attempt. -/
def success (stepId : String) (startedAt completedAt : DateTime) (ordered : startedAt ≤ completedAt) :
    StepResult where
  stepId := stepId
  status := .succeeded
  startedAt := some startedAt
  completedAt := some completedAt
  attemptCount := 1
  consistent := by
    simp [StepResultFields.consistentStatus, rejectIf, Bind.bind, Except.bind,
      StepStatus.terminal, not_lt.mpr ordered]

/-- The error of an attempt that will not be repeated. -/
def failure : ExecutionError where
  code := "provider_failed"
  message := "Provider failed"
  category := .provider

/-- The execution is started and the two independent steps are handed out. -/
def handedOut : List (RuntimeOperation × Nat) :=
  [(.start context 1, 0), (.dispatch context "collect" 11 2 none, 1),
    (.dispatch context "review" 12 3 none, 2)]

theorem handedOut_accepted : (ExecutionRun.run plan { session } handedOut).isSome := by decide

/-- The execution while both steps are running. -/
def running : ExecutionRun := (ExecutionRun.run plan { session } handedOut).get handedOut_accepted

theorem running_reachable : (executionSystem plan).Reachable running :=
  reachable_of_run (by decide) handedOut_accepted

end Sample

/-!
# The runtime contract along every run

The operations copy sessions and states without validating the copies. Along
every run of accepted operations the copies pass all the checks they skip, the
session stays in step with the state, revisions count the operations, and a step
that has ended never changes again.
-/

variable {plan : ExecutionPlan} {execution final : ExecutionRun} {operation : RuntimeOperation}
  {expectedRevision : Nat} {transition : RuntimeTransition} {state : ExecutionRuntimeState}

/-- What an accepted operation on a started execution did: it repeated an answer, or
advanced the execution. -/
inductive CallEffect (plan : ExecutionPlan) (session : ExecutionSession)
    (state : ExecutionRuntimeState) (transition : RuntimeTransition) : Prop where
  | repeated (effect : RepetitionEffect session state transition)
  | advanced {occurredAt : DateTime} (fresh : transition.idempotent = false)
      (later : state.updatedAt ≤ occurredAt) (active : ActiveRuntime session state)
      (advances : Advances plan session state occurredAt transition.session transition.state)

/-- Every operation accepted on a started execution repeats or advances. -/
theorem call_effect (started : execution.runtime = some state)
    (sound : RuntimeSound plan execution.session state)
    (accepted : execution.call plan operation expectedRevision = .ok transition) :
    CallEffect plan execution.session state transition := by
  cases operation with
  | start context startedAt =>
      have effect := initializeRuntime_effect accepted
      exact absurd (sound.status.symm.trans effect.created) (sessionStatusFor_ne_created _ _)
  | dispatch context stepId dispatchId issuedAt deadline =>
      simp only [ExecutionRun.call, started] at accepted
      obtain ⟨_, _, _, effect⟩ := createDispatchRequest_effect sound accepted
      exact .advanced (by rw [effect.answers]) effect.later (sound.active effect.unended)
        (effect.advances sound)
  | complete result occurredAt =>
      simp only [ExecutionRun.call, started] at accepted
      rcases completeStep_effect sound accepted with ⟨_, _, _, _, effect⟩ | ⟨_, _, effect⟩
      · exact .repeated effect
      · exact .advanced (by rw [effect.answers]) effect.later
          (sound.active_of_unended effect.isCurrent.1 (effect.runs ▸ by decide))
          (effect.advances sound)
  | fail stepId error occurredAt retryDecision nextRetryAt =>
      simp only [ExecutionRun.call, started] at accepted
      rcases failStep_effect sound accepted with ⟨_, _, effect⟩ | ⟨_, _, _, _, effect⟩
      · exact .advanced (by rw [effect.answers]) effect.later
          (sound.active_of_unended effect.isCurrent.1 (effect.runs ▸ by decide))
          (effect.advances sound)
      · exact .advanced (by rw [effect.answers]) effect.later
          (sound.active_of_unended effect.isCurrent.1 (effect.runs ▸ by decide))
          (effect.advances sound)
  | requestCancellation requestedAt =>
      simp only [ExecutionRun.call, started] at accepted
      rcases requestCancellation_effect accepted with effect | effect
      · exact .repeated effect
      · exact .advanced (by rw [effect.answers]) effect.later (sound.active effect.unended)
          (effect.advances plan)
  | applyCancellation occurredAt =>
      simp only [ExecutionRun.call, started] at accepted
      obtain ⟨_, _, effect⟩ := applyCancellation_effect sound accepted
      exact .advanced (by rw [effect.answers]) effect.later (sound.active effect.unended)
        (effect.advances sound)

theorem call_unstarted (unstarted : execution.runtime = none)
    (accepted : execution.call plan operation expectedRevision = .ok transition) :
    ∃ context startedAt, operation = .start context startedAt ∧
      InitializationEffect plan execution.session startedAt transition := by
  cases operation with
  | start context startedAt =>
      exact ⟨context, startedAt, rfl, initializeRuntime_effect accepted⟩
  | dispatch | complete | fail | requestCancellation | applyCancellation =>
      simp only [ExecutionRun.call, unstarted, reduceCtorEq] at accepted

namespace CallEffect

variable {session : ExecutionSession}

theorem sound (effect : CallEffect plan session state transition)
    (sound : RuntimeSound plan session state) :
    RuntimeSound plan transition.session transition.state := by
  cases effect with
  | repeated effect =>
      rw [effect.answers]
      exact sound
  | advanced _ later active advances => exact advances.sound sound active later

theorem continues (effect : CallEffect plan session state transition) :
    Continues state.stepStates transition.state.stepStates := by
  cases effect with
  | repeated effect =>
      rw [effect.answers]
      exact .refl _
  | advanced _ _ _ advances => exact advances.continues

theorem revision (effect : CallEffect plan session state transition) :
    transition.state.revision = state.revision + if transition.idempotent then 0 else 1 := by
  cases effect with
  | repeated effect =>
      rw [effect.answers]
      rfl
  | advanced fresh _ _ advances =>
      rw [fresh]
      exact advances.revision

end CallEffect

/-- What holds of an execution along every run. -/
structure ExecutionSound (plan : ExecutionPlan) (execution : ExecutionRun) : Prop where
  lifecycle : execution.session.lifecycle = .ok ()
  runtime : ∀ state, execution.runtime = some state → RuntimeSound plan execution.session state

/-- An accepted operation keeps it. -/
theorem ExecutionSound.after (sound : ExecutionSound plan execution)
    (accepted : execution.call plan operation expectedRevision = .ok transition) :
    ExecutionSound plan (execution.after operation transition) := by
  have kept : RuntimeSound plan transition.session transition.state := by
    cases started : execution.runtime with
    | none =>
        obtain ⟨_, _, _, effect⟩ := call_unstarted started accepted
        exact effect.sound sound.lifecycle
    | some state =>
        exact (call_effect started (sound.runtime state started) accepted).sound
          (sound.runtime state started)
  refine ⟨kept.lifecycle, fun state isState => ?_⟩
  obtain rfl := Option.some.inj isState
  exact kept

/-- The invariant of all runs of a plan. -/
def executionInvariant (plan : ExecutionPlan) : (executionSystem plan).Invariant where
  Holds := ExecutionSound plan
  initial := by
    rintro execution ⟨valid, unstarted, _⟩
    refine ⟨valid, fun state isState => ?_⟩
    rw [unstarted] at isState
    cases isState
  preserved := by
    rintro execution ⟨operation, expectedRevision⟩ _ sound ⟨transition, accepted, rfl⟩
    exact sound.after accepted

/-- A later execution continues an earlier one: a started one stays started, with
the same steps, and those that had ended as they were. -/
def RunContinues (execution final : ExecutionRun) : Prop :=
  ∀ state, execution.runtime = some state → ∃ finalState, final.runtime = some finalState ∧
    Continues state.stepStates finalState.stepStates

/-- A run continues the execution it starts from. -/
theorem runContinues_of_steps (sound : ExecutionSound plan execution)
    (steps : (executionSystem plan).Steps execution calls final) :
    RunContinues execution final := by
  refine TransitionSystem.Steps.related RunContinues ?_ ?_ (executionInvariant plan) ?_ sound steps
  · exact fun _ state isState => ⟨state, isState, .refl _⟩
  · intro first second third earlier later state isState
    obtain ⟨middle, isMiddle, continues⟩ := earlier state isState
    obtain ⟨last, isLast, continuesOn⟩ := later middle isMiddle
    exact ⟨last, isLast, continues.trans continuesOn⟩
  · rintro current ⟨operation, expectedRevision⟩ _ holds ⟨transition, accepted, rfl⟩ state isState
    exact ⟨transition.state, rfl,
      (call_effect isState (holds.runtime state isState) accepted).continues⟩

/-- The checks that the operations skip, and how session and state belong
together. -/
structure RuntimeContract (plan : ExecutionPlan) (session : ExecutionSession)
    (state : ExecutionRuntimeState) : Prop where
  validState : ∀ item ∈ state.stepStates, item.validState = .ok ()
  snapshotInvariants : state.snapshotInvariants = .ok ()
  lifecycle : session.lifecycle = .ok ()
  status : session.status = sessionStatusFor state.cancellationRequested state.status
  cancelling : session.status ∉ SessionStatus.terminal →
    (session.status = .cancelling ↔ state.cancellationRequested = true)
  revision : session.runtimeRevision = state.revision
  stepIds : (state.stepStates.map (·.stepId)).Perm plan.stepIds
  attempts : ∀ item ∈ state.stepStates, ∃ step ∈ plan.steps, step.stepId = item.stepId ∧
    item.attemptCount ≤ step.retryPolicy.maxAttempts

theorem RuntimeSound.contract {session : ExecutionSession}
    (sound : RuntimeSound plan session state) : RuntimeContract plan session state :=
  { validState := sound.validState
    snapshotInvariants := sound.snapshotInvariants
    lifecycle := sound.lifecycle
    status := sound.status
    cancelling := sound.cancelling_iff
    revision := sound.revision
    stepIds := sound.steps.listed
    attempts := sound.attempts }

/-- What one accepted operation does to the revisions: a repetition changes nothing,
and any other raises the revision by one. -/
structure RevisionContract (execution : ExecutionRun) (transition : RuntimeTransition) : Prop where
  grows : transition.session.runtimeRevision =
    execution.session.runtimeRevision + if transition.idempotent then 0 else 1
  equal : transition.state.revision = transition.session.runtimeRevision
  repeats : transition.idempotent = true →
    execution.runtime = some transition.state ∧ execution.session = transition.session

/-- Every accepted operation keeps the revision contract. -/
theorem revisionContract (sound : ExecutionSound plan execution)
    (accepted : execution.call plan operation expectedRevision = .ok transition) :
    RevisionContract execution transition := by
  have equal := transition.revisions.2.symm
  cases started : execution.runtime with
  | none =>
      obtain ⟨_, _, _, effect⟩ := call_unstarted started accepted
      refine ⟨?_, equal, fun repeats => ?_⟩
      · rw [effect.newSession, effect.fresh]
        rfl
      · rw [effect.fresh] at repeats
        cases repeats
  | some state =>
      have runtime := sound.runtime state started
      have effect := call_effect started runtime accepted
      refine ⟨?_, equal, fun repeats => ?_⟩
      · rw [← equal, effect.revision, runtime.revision]
      · cases effect with
        | repeated effect => rw [effect.answers, started]; exact ⟨rfl, rfl⟩
        | advanced fresh =>
            rw [fresh] at repeats
            cases repeats

/-- Along every run of accepted operations the session passes its checks and, once
the execution is started, so do the runtime state and each of its steps, in step
with the session; every further run keeps the steps and leaves those that ended as
they were; and every accepted operation that is no repetition raises the revision
by exactly one. -/
theorem runtime_contract (reachable : (executionSystem plan).Reachable execution) :
    (execution.session.lifecycle = .ok () ∧
      ∀ state, execution.runtime = some state → RuntimeContract plan execution.session state) ∧
    (∀ calls final, (executionSystem plan).Steps execution calls final →
      RunContinues execution final) ∧
    ∀ operation expectedRevision transition,
      execution.call plan operation expectedRevision = .ok transition →
        RevisionContract execution transition := by
  have sound : ExecutionSound plan execution := (executionInvariant plan).of_reachable reachable
  exact ⟨⟨sound.lifecycle, fun state isState => (sound.runtime state isState).contract⟩,
    fun _ _ steps => runContinues_of_steps sound steps,
    fun _ _ _ accepted => revisionContract sound accepted⟩

/-- The contract holds while two steps of the sample plan are running. -/
theorem runtime_contract_running :
    Sample.running.active.length = 2 ∧ Sample.running.session.lifecycle = .ok () ∧
      ∀ state, Sample.running.runtime = some state →
        RuntimeContract Sample.plan Sample.running.session state :=
  ⟨by decide, (runtime_contract Sample.running_reachable).1⟩

/-! ## Callers that compete -/

/-- An accepted operation names the revision it is made on. -/
theorem expectedRevision_of_accepted (sound : ExecutionSound plan execution)
    (accepted : execution.call plan operation expectedRevision = .ok transition) :
    expectedRevision = execution.session.runtimeRevision := by
  cases operation with
  | start context startedAt =>
      simp only [ExecutionRun.call, initializeRuntime, requireRevision, bind_eq_ok_iff,
        exists_unit_iff, rejectIf_eq_ok_iff, not_not] at accepted
      exact accepted.1.symm
  | dispatch | complete | fail | requestCancellation | applyCancellation =>
      cases started : execution.runtime with
      | none => simp only [ExecutionRun.call, started, reduceCtorEq] at accepted
      | some state =>
          have runtime := sound.runtime state started
          rw [runtime.revision]
          simp only [ExecutionRun.call, started, createDispatchRequest, validateRuntime,
            completeStep, failStep, requestCancellation, applyCancellation, requireRevision,
            bind_eq_ok_iff, exists_unit_iff, rejectIf_eq_ok_iff, not_not,
            runtime.validateStateScope_eq_ok_iff] at accepted
          first | exact accepted.1 | exact accepted.1.2 | exact accepted.1.symm

/-- What was taken changed the execution. -/
def Changes (step : TakenStep ExecutionRun (RuntimeOperation × Nat)) : Prop :=
  step.after.session ≠ step.before.session ∨ step.after.runtime ≠ step.before.runtime

instance (step : TakenStep ExecutionRun (RuntimeOperation × Nat)) : Decidable (Changes step) :=
  inferInstanceAs (Decidable (_ ∨ _))

/-- **No change is lost to another, and none comes after the end**: the operations that change an
execution are made on its revisions one after the other, each on one of its own, while it runs. -/
theorem changes_consecutive {taken : List (TakenStep ExecutionRun (RuntimeOperation × Nat))}
    (reachable : (executionSystem plan).Reachable execution)
    (trace : (executionSystem plan).Trace execution taken final) :
    (taken.filter (Changes ·)).map (·.label.2) =
        List.range' execution.session.runtimeRevision (taken.filter (Changes ·)).length ∧
      final.session.runtimeRevision =
        execution.session.runtimeRevision + (taken.filter (Changes ·)).length ∧
      ∀ step ∈ taken, Changes step →
        ∀ state, step.before.runtime = some state → state.status = .running := by
  have sound : ExecutionSound plan execution := (executionInvariant plan).of_reachable reachable
  suffices ExecutionSound plan final ∧ _ from this.2
  induction trace with
  | refl => exact ⟨sound, rfl, rfl, by simp⟩
  | @step taken before label _ prior transition ih =>
      obtain ⟨held, consecutive, revision, running⟩ := ih
      obtain ⟨transition, accepted, rfl⟩ := transition
      obtain ⟨grows, -, repeats⟩ := revisionContract held accepted
      refine ⟨held.after accepted, ?_⟩
      have session : (before.after label.1 transition).session = transition.session := rfl
      rw [List.filter_append, List.filter_singleton]
      cases repeated : transition.idempotent with
      | true =>
          obtain ⟨runtime, same⟩ := repeats repeated
          have unchanged : ¬ Changes ⟨before, label, before.after label.1 transition⟩ := by
            simp [Changes, ExecutionRun.after, same, runtime]
          simpa [unchanged, session, ← same, or_imp, forall_and]
            using ⟨consecutive, revision, running⟩
      | false =>
          rw [repeated] at grows
          have changed : Changes ⟨before, label, before.after label.1 transition⟩ :=
            .inl fun same : transition.session = before.session => by simp [same] at grows
          have active : ∀ state, before.runtime = some state → state.status = .running := by
            intro state isState
            cases call_effect isState (held.runtime state isState) accepted with
            | repeated effect => simp [effect.answers] at repeated
            | advanced _ _ active => exact active.running
          have named := expectedRevision_of_accepted held accepted
          simpa [changed, session, grows, named, revision, List.range'_concat, ← consecutive,
            add_assoc, or_imp, forall_and] using ⟨running, active⟩

/-- The sample is cancelled on the revision it has reached. -/
theorem changes_consecutive_running :
    ∃ taken final, (executionSystem Sample.plan).Trace Sample.running taken final ∧
      taken.length = 1 ∧ (taken.filter (Changes ·)).map (·.label.2) =
        List.range' 3 (taken.filter (Changes ·)).length := by
  obtain ⟨transition, accepted⟩ : Accepted (Sample.running.call Sample.plan
    (.requestCancellation 6) 3) := by decide
  have step : (executionSystem Sample.plan).Step Sample.running (.requestCancellation 6, 3) _ :=
    ⟨transition, accepted, rfl⟩
  have trace := TransitionSystem.Trace.step .refl step
  exact ⟨_, _, trace, rfl, (changes_consecutive Sample.running_reachable trace).1⟩

end PolicyOS.Execution
