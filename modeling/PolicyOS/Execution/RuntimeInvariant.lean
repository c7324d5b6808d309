import PolicyOS.Execution.StatesAdvance

/-!
# Propagation of failures

After a step has failed, one pass in topological order skips every waiting step
behind it. Because a dependency is settled before anything that depends on it is
visited, the pass leaves each step exactly as its own rule over the final states
of its dependencies says.
-/

namespace PolicyOS.Execution

open Foundation

variable {plan : ExecutionPlan} {step : ExecutionStep} {items : List RuntimeStepState}
  {item next : RuntimeStepState} {occurredAt updatedAt : DateTime}

/-- What one visit makes of the state of a step. -/
def settled (step : ExecutionStep) (occurredAt : DateTime)
    (states : String → Option RuntimeStepState) (item : RuntimeStepState) : RuntimeStepState :=
  if item.status ∈ RuntimeStepStatus.waiting ∧ hasFailedRequiredDependency step states then
    item.skipped (skippedResult item occurredAt) occurredAt
  else item

variable {states : String → Option RuntimeStepState}

/-- A visit of a step of the plan settles its state. -/
theorem propagated_eq_settled (isStep : step ∈ plan.steps) (own : states step.stepId = some item) :
    propagated plan occurredAt states step.stepId = some (settled step occurredAt states item) := by
  have found : plan.steps.find? (·.stepId = step.stepId) = some step :=
    (find?_key_eq_some_iff plan.stepIds_nodup).mpr ⟨isStep, rfl⟩
  have phase := item.status.waiting_or_running_or_terminal
  rw [propagated, own, found, settled]
  by_cases done : item.status ∈ RuntimeStepStatus.terminal ∨ item.status = .running
  · have unwaiting : item.status ∉ RuntimeStepStatus.waiting := by
      rintro waits
      rcases done with ended | runs
      · exact RuntimeStepStatus.not_terminal_of_waiting waits ended
      · exact absurd (runs ▸ waits) (by decide)
    simp only [done, unwaiting, if_true, false_and, if_false]
  · have waits : item.status ∈ RuntimeStepStatus.waiting :=
      phase.resolve_right fun other => done other.symm
    by_cases failed : hasFailedRequiredDependency step states <;>
      simp only [done, waits, failed, if_true, if_false, and_self, and_false]

theorem hasFailedRequiredDependency_congr {first second : String → Option RuntimeStepState}
    (agree : ∀ dependency ∈ step.dependencies, first dependency = second dependency) :
    hasFailedRequiredDependency step first ↔ hasFailedRequiredDependency step second := by
  unfold hasFailedRequiredDependency
  refine exists_congr fun dependency => and_congr_right fun depends => ?_
  rw [agree dependency depends]

theorem settled_congr {first second : String → Option RuntimeStepState}
    (agree : ∀ dependency ∈ step.dependencies, first dependency = second dependency) :
    settled step occurredAt first item = settled step occurredAt second item := by
  simp only [settled, hasFailedRequiredDependency_congr agree]

/-- A visit reads its own step and what that depends on. -/
theorem propagated_congr {first second : String → Option RuntimeStepState} {stepId : String}
    (same : first stepId = second stepId)
    (agree : ∀ dependency ∈ dependenciesOf plan.nodes stepId,
      first dependency = second dependency) :
    propagated plan occurredAt first stepId = propagated plan occurredAt second stepId := by
  cases found : plan.steps.find? (·.stepId = stepId) with
  | none =>
      unfold propagated
      rw [found, same]
      cases second stepId <;> rfl
  | some step =>
      obtain ⟨isStep, rfl⟩ := (find?_key_eq_some_iff plan.stepIds_nodup).mp found
      rw [plan.dependenciesOf_step isStep] at agree
      cases own : second step.stepId with
      | none =>
          unfold propagated
          rw [same, own]
      | some item =>
          rw [propagated_eq_settled isStep (same.trans own), propagated_eq_settled isStep own,
            settled_congr agree]

theorem settled_stepId :
    (settled step occurredAt states item).stepId = item.stepId := by
  unfold settled
  split <;> rfl

theorem settled_advance :
    StepAdvance step occurredAt item (settled step occurredAt states item) := by
  unfold settled
  split
  · rename_i skips
    exact .skipped skips.1
  · exact .kept

/-- What the pass makes of all step states: each is settled over the final ones. -/
def SettledStates (plan : ExecutionPlan) (occurredAt : DateTime)
    (items nexts : List RuntimeStepState) : Prop :=
  List.Forall₂ (fun item next => ∃ step ∈ plan.steps, step.stepId = item.stepId ∧
    next = settled step occurredAt (statesById nexts) item) items nexts

/-- The pass is accepted, and settles every step over the final states. -/
theorem StatesSound.propagate {state : ExecutionRuntimeState}
    (sound : StatesSound plan updatedAt state.stepStates) (occurredAt : DateTime) :
    ∃ nexts, propagateFailedDependencies plan state occurredAt =
        .ok { state with stepStates := nexts } ∧
      SettledStates plan occurredAt state.stepStates nexts := by
  obtain ⟨order, computed, ordered, complete⟩ := plan.exists_order
  let states := sweep (propagated plan occurredAt) order (statesById state.stepStates)
  have settles : ∀ step ∈ plan.steps, ∀ item ∈ state.stepStates, step.stepId = item.stepId →
      states step.stepId = some (settled step occurredAt states item) := by
    intro step isStep item present own
    have listed : step.stepId ∈ order := complete _ (List.mem_map_of_mem isStep)
    have initially : statesById state.stepStates step.stepId = some item :=
      (statesById_eq_some_iff sound.distinct).mpr ⟨present, own.symm⟩
    have apart : step.stepId ∉ step.dependencies := by
      rw [← plan.dependenciesOf_step isStep]
      exact ordered.not_self_dependency listed
    rw [show states step.stepId = _ from ordered.sweep_apply propagated_congr listed,
      initially, propagated_eq_settled isStep (Function.update_self ..)]
    refine congrArg some (settled_congr fun dependency depends => ?_)
    have different : dependency ≠ step.stepId := fun same => apart (same ▸ depends)
    exact Function.update_of_ne different ..
  let next := fun item : RuntimeStepState => (states item.stepId).getD item
  have isNext : ∀ step ∈ plan.steps, ∀ item ∈ state.stepStates, step.stepId = item.stepId →
      next item = settled step occurredAt states item := by
    intro step isStep item present own
    show (states item.stepId).getD item = _
    rw [← own, settles step isStep item present own, Option.getD_some]
  have distinct : ((state.stepStates.map next).map (·.stepId)).Nodup := by
    have same : (state.stepStates.map next).map (·.stepId) = state.stepStates.map (·.stepId) := by
      rw [List.map_map]
      refine List.map_congr_left fun item present => ?_
      obtain ⟨step, isStep, own⟩ := sound.sound item present
      rw [Function.comp_apply, isNext step isStep item present own.stepId.symm, settled_stepId]
    rw [same]
    exact sound.distinct
  have final : ∀ step ∈ plan.steps, ∀ dependency ∈ step.dependencies,
      states dependency = statesById (state.stepStates.map next) dependency := by
    intro step isStep dependency depends
    obtain ⟨other, isOther, rfl⟩ := List.mem_map.mp (plan.dependency_mem isStep depends)
    obtain ⟨item, present, own⟩ := sound.exists_item isOther
    rw [settles other isOther item present own.symm, eq_comm, statesById_eq_some_iff distinct]
    refine ⟨List.mem_map.mpr ⟨item, present, isNext other isOther item present own.symm⟩, ?_⟩
    rw [settled_stepId, own]
  refine ⟨state.stepStates.map next, ?_, forall₂_map_self_iff.mpr fun item present => ?_⟩
  · rw [propagateFailedDependencies, computed]
    rfl
  · obtain ⟨step, isStep, own⟩ := sound.sound item present
    refine ⟨step, isStep, own.stepId.symm, ?_⟩
    rw [isNext step isStep item present own.stepId.symm]
    exact settled_congr (final step isStep)

namespace SettledStates

variable {nexts : List RuntimeStepState}

theorem advance (settles : SettledStates plan occurredAt items nexts) :
    StatesAdvance plan occurredAt items nexts :=
  List.Forall₂.imp (fun _ _ ⟨step, isStep, own, isNext⟩ =>
    ⟨step, isStep, own, isNext ▸ settled_advance⟩) settles

theorem mem_of_running (settles : SettledStates plan occurredAt items nexts)
    (isNext : next ∈ nexts) (runs : next.status = .running) : next ∈ items := by
  obtain ⟨item, present, step, _, _, rfl⟩ := exists_of_mem_rewritten settles isNext
  unfold settled at runs ⊢
  split at runs
  · cases runs
  · rename_i kept
    rwa [if_neg kept]

theorem statesSound (settles : SettledStates plan occurredAt items nexts)
    (sound : StatesSound plan updatedAt items) (later : updatedAt ≤ occurredAt) :
    StatesSound plan occurredAt nexts :=
  settles.advance.statesSound sound later fun _ isNext runs =>
    .inl (settles.mem_of_running isNext runs)

/-- The pass leaves no dependent waiting on a failure. -/
theorem failuresPropagated (settles : SettledStates plan occurredAt items nexts)
    (sound : StatesSound plan occurredAt nexts) : FailuresPropagated plan nexts := by
  intro step isStep next isNext same failed
  rcases next.status.waiting_or_running_or_terminal with waits | runs | ended
  · obtain ⟨item, _, other, isOther, own, rfl⟩ := exists_of_mem_rewritten settles isNext
    rw [settled_stepId] at same
    obtain rfl := plan.step_unique isOther isStep (own.trans same)
    unfold settled at waits ⊢
    split
    · have ended : RuntimeStepStatus.skipped ∈ RuntimeStepStatus.terminal := by decide
      exact ended
    · rename_i kept
      rw [if_neg kept] at waits
      exact absurd ⟨waits, failed⟩ kept
  · obtain ⟨dependency, depends, other, isOther, otherSame, otherFailed⟩ :=
      (hasFailedRequiredDependency_iff sound.distinct).mp failed
    obtain ⟨success, isSuccess, successSame, succeeded⟩ :=
      (dependencySucceeded_iff sound.distinct).mp
        (sound.met step isStep next isNext same runs dependency depends)
    obtain rfl := List.inj_on_of_nodup_map sound.distinct isOther isSuccess
      (otherSame.trans successSame.symm)
    rw [succeeded] at otherFailed
    exact absurd otherFailed (by decide)
  · exact ended

end SettledStates

end PolicyOS.Execution

/-!
# The invariant of a session and its state

`RuntimeSound` is what holds of a session and its runtime state between any two
operations, and it implies the checks their contracts make at construction.
`Advances` lists what an accepted operation makes of the two: the execution moves
on, has a cancellation requested, or ends. That the invariant is kept is one case
analysis over these three.
-/

namespace PolicyOS.Execution

open Foundation

variable {plan : ExecutionPlan} {session newSession : ExecutionSession}
  {state newState : ExecutionRuntimeState} {occurredAt : DateTime}

/-- The session status that belongs to a runtime status. -/
def sessionStatusFor (cancellationRequested : Bool) : ExecutionStatus → SessionStatus
  | .pending | .running => if cancellationRequested then .cancelling else .running
  | .succeeded | .partial_ => .completed
  | .failed => .failed
  | .cancelled => .cancelled
  | .timedOut => .timedOut

/-- An execution that has not ended. -/
structure ActiveRuntime (session : ExecutionSession) (state : ExecutionRuntimeState) : Prop where
  running : state.status = .running
  unfinished : state.completedAt = none ∧ session.completedAt = none
  unended : ∃ item ∈ state.stepStates, item.status ∉ RuntimeStepStatus.terminal

/-- An execution that has ended. -/
structure EndedRuntime (session : ExecutionSession) (state : ExecutionRuntimeState) : Prop where
  terminal : state.status ∈ ExecutionStatus.terminal
  finished : state.completedAt = some state.updatedAt ∧
    session.completedAt = some state.updatedAt
  ended : ∀ item ∈ state.stepStates, item.status ∈ RuntimeStepStatus.terminal

/-- What holds of a session and its runtime state between any two operations. -/
structure RuntimeSound (plan : ExecutionPlan) (session : ExecutionSession)
    (state : ExecutionRuntimeState) : Prop where
  identity : session.sessionId = state.sessionId ∧ session.executionId = state.executionId ∧
    session.planId = state.planId
  planned : session.executionId = plan.executionId ∧ session.planId = plan.planId
  revision : session.runtimeRevision = state.revision
  steps : StatesSound plan state.updatedAt state.stepStates
  propagated : FailuresPropagated plan state.stepStates
  created : session.createdAt ≤ state.startedAt
  started : session.startedAt = some state.startedAt
  clock : state.startedAt ≤ state.updatedAt
  updated : session.updatedAt = state.updatedAt
  requested : ∀ requestedAt ∈ session.cancellationRequestedAt, session.createdAt ≤ requestedAt
  status : session.status = sessionStatusFor state.cancellationRequested state.status
  phase : ActiveRuntime session state ∨ EndedRuntime session state

theorem not_terminal_running : ExecutionStatus.running ∉ ExecutionStatus.terminal := by decide

theorem sessionStatusFor_terminal {status : ExecutionStatus} (requested : Bool)
    (terminal : status ∈ ExecutionStatus.terminal) :
    sessionStatusFor requested status ∈ SessionStatus.terminal := by
  cases status <;> revert terminal <;> decide +revert

theorem sessionStatusFor_running (requested : Bool) :
    sessionStatusFor requested .running ∉ SessionStatus.terminal ∧
      (sessionStatusFor requested .running = .cancelling ↔ requested = true) := by
  cases requested <;> decide

theorem sessionStatusFor_ne_created (requested : Bool) (status : ExecutionStatus) :
    sessionStatusFor requested status ≠ .created := by
  cases requested <;> cases status <;> decide

namespace RuntimeSound

theorem active (sound : RuntimeSound plan session state)
    (unended : state.status ∉ ExecutionStatus.terminal) : ActiveRuntime session state :=
  sound.phase.resolve_right fun ended => unended ended.terminal

theorem active_of_unended (sound : RuntimeSound plan session state) {item : RuntimeStepState}
    (present : item ∈ state.stepStates) (unended : item.status ∉ RuntimeStepStatus.terminal) :
    ActiveRuntime session state :=
  sound.phase.resolve_right fun ended => unended (ended.ended item present)

theorem validState (sound : RuntimeSound plan session state) :
    ∀ item ∈ state.stepStates, item.validState = .ok () := by
  intro item present
  obtain ⟨_, _, own⟩ := sound.steps.sound item present
  exact validState_eq_ok_iff.mpr own.valid

/-- The state passes its own checks. -/
theorem snapshotInvariants (sound : RuntimeSound plan session state) :
    state.snapshotInvariants = .ok () := by
  simp only [ExecutionRuntimeState.snapshotInvariants, bind_eq_ok_iff, exists_unit_iff,
    rejectIf_eq_ok_iff, not_not, not_and]
  refine ⟨sound.steps.distinct, ?_⟩
  rcases sound.phase with active | ended
  · have unended : state.status ∉ ExecutionStatus.terminal := active.running ▸ not_terminal_running
    exact ⟨fun terminal => absurd terminal unended, fun _ => active.unfinished.1,
      fun terminal => absurd terminal unended⟩
  · refine ⟨fun _ missing => ?_, fun unended => absurd ended.terminal unended, ?_⟩
    · rw [ended.finished.1] at missing
      cases missing
    · rintro _ ⟨item, present, runs⟩
      exact absurd (runs ▸ ended.ended item present) (by decide)

/-- The session passes its own checks. -/
theorem lifecycle (sound : RuntimeSound plan session state) : session.lifecycle = .ok () := by
  have notCreated : session.status ≠ .created :=
    sound.status ▸ sessionStatusFor_ne_created _ _
  simp only [ExecutionSession.lifecycle, bind_eq_ok_iff, exists_unit_iff, rejectIf_eq_ok_iff,
    not_and, not_exists, not_not, not_lt]
  refine ⟨?_, fun created => absurd created notCreated, fun _ missing => ?_, ?_⟩
  · rw [sound.updated]
    exact sound.created.trans sound.clock
  · rw [sound.started] at missing
    cases missing
  · rcases sound.phase with active | ended
    · have unended : session.status ∉ SessionStatus.terminal := by
        rw [sound.status, active.running]
        exact (sessionStatusFor_running _).1
      refine ⟨fun terminal => absurd terminal unended, fun _ => active.unfinished.2,
        fun _ _ completedAt isEnd => ?_, sound.requested⟩
      rw [active.unfinished.2] at isEnd
      cases isEnd
    · have terminal : session.status ∈ SessionStatus.terminal := by
        rw [sound.status]
        exact sessionStatusFor_terminal _ ended.terminal
      refine ⟨fun _ missing => ?_, fun unended => absurd terminal unended, ?_, sound.requested⟩
      · rw [ended.finished.2] at missing
        cases missing
      · intro startedAt isStart completedAt isEnd
        rw [sound.started, Option.mem_def, Option.some.injEq] at isStart
        rw [ended.finished.2, Option.mem_def, Option.some.injEq] at isEnd
        exact isStart ▸ isEnd ▸ sound.clock

theorem attempts (sound : RuntimeSound plan session state) :
    ∀ item ∈ state.stepStates, ∃ step ∈ plan.steps, step.stepId = item.stepId ∧
      item.attemptCount ≤ step.retryPolicy.maxAttempts := by
  intro item present
  obtain ⟨step, isStep, own⟩ := sound.steps.sound item present
  exact ⟨step, isStep, own.stepId.symm, own.attempts⟩

theorem cancelling_iff (sound : RuntimeSound plan session state)
    (unended : session.status ∉ SessionStatus.terminal) :
    session.status = .cancelling ↔ state.cancellationRequested = true := by
  have active : ActiveRuntime session state := sound.active fun terminal =>
    unended (sound.status ▸ sessionStatusFor_terminal _ terminal)
  rw [sound.status, active.running]
  exact (sessionStatusFor_running _).2

theorem validatePlan (sound : RuntimeSound plan session state) :
    state.validatePlan plan = .ok () := by
  simp only [ExecutionRuntimeState.validatePlan, bind_eq_ok_iff, exists_unit_iff,
    rejectIf_eq_ok_iff, not_or, not_not]
  obtain ⟨_, sameExecution, samePlan⟩ := sound.identity
  exact ⟨⟨sameExecution.symm.trans sound.planned.1, samePlan.symm.trans sound.planned.2⟩,
    sound.steps.listed.subset, sound.steps.listed.symm.subset⟩

theorem validateStateScope_eq_ok_iff (sound : RuntimeSound plan session state) {revision : Nat} :
    validateStateScope session plan state revision = .ok () ↔ revision = state.revision := by
  simp only [validateStateScope, requireRevision, validateSessionStateIdentity, bind_eq_ok_iff,
    exists_unit_iff, rejectIf_eq_ok_iff, not_or, not_not]
  constructor
  · rintro ⟨expected, _⟩
    exact expected.symm
  · rintro rfl
    exact ⟨rfl, ⟨sound.revision, sound.identity⟩, sound.planned, sound.validatePlan⟩

end RuntimeSound

/-- What an accepted operation makes of a session and a state, unless it only
repeats an answer. -/
inductive Advances (plan : ExecutionPlan) (session : ExecutionSession)
    (state : ExecutionRuntimeState) (occurredAt : DateTime) :
    ExecutionSession → ExecutionRuntimeState → Prop where
  | moved {items : List RuntimeStepState}
      (continues : Continues state.stepStates items)
      (steps : StatesSound plan occurredAt items)
      (propagated : FailuresPropagated plan items)
      (unended : ∃ item ∈ items, item.status ∉ RuntimeStepStatus.terminal) :
      Advances plan session state occurredAt
        (updateSession session (state.revision + 1) occurredAt none)
        { state with
          stepStates := items, revision := state.revision + 1, updatedAt := occurredAt }
  | requested :
      Advances plan session state occurredAt
        { session with
          status := .cancelling, cancellationRequestedAt := some occurredAt
          updatedAt := occurredAt, runtimeRevision := state.revision + 1 }
        { state with
          revision := state.revision + 1, updatedAt := occurredAt, cancellationRequested := true }
  | ended {items : List RuntimeStepState} {status : ExecutionStatus}
      {failure : Option ExecutionError}
      (continues : Continues state.stepStates items)
      (steps : StatesSound plan occurredAt items)
      (propagated : FailuresPropagated plan items)
      (terminal : status ∈ ExecutionStatus.terminal)
      (ended : ∀ item ∈ items, item.status ∈ RuntimeStepStatus.terminal) :
      Advances plan session state occurredAt
        { session with
          status := sessionStatusFor state.cancellationRequested status
          updatedAt := occurredAt, completedAt := some occurredAt
          runtimeRevision := state.revision + 1 }
        { state with
          stepStates := items, revision := state.revision + 1, updatedAt := occurredAt
          status := status, completedAt := some occurredAt, failure := failure }

namespace Advances

theorem revision (advances : Advances plan session state occurredAt newSession newState) :
    newState.revision = state.revision + 1 := by
  cases advances <;> rfl

theorem continues (advances : Advances plan session state occurredAt newSession newState) :
    Continues state.stepStates newState.stepStates := by
  cases advances with
  | moved continues => exact continues
  | requested => exact .refl _
  | ended continues => exact continues

/-- The invariant is kept. -/
theorem sound (advances : Advances plan session state occurredAt newSession newState)
    (sound : RuntimeSound plan session state) (active : ActiveRuntime session state)
    (later : state.updatedAt ≤ occurredAt) : RuntimeSound plan newSession newState := by
  have status := sound.status
  rw [active.running] at status
  have clock := sound.clock.trans later
  cases advances with
  | moved _ steps propagated unended =>
      exact
        { sound with
          revision := rfl, steps, propagated, clock, updated := rfl
          phase := .inl ⟨active.running, ⟨active.unfinished.1, rfl⟩, unended⟩ }
  | requested =>
      exact
        { sound with
          revision := rfl
          steps :=
            { sound.steps with
              sound := fun item present => by
                obtain ⟨step, isStep, own⟩ := sound.steps.sound item present
                exact ⟨step, isStep, StepAdvance.kept.sound own later⟩ }
          clock
          updated := rfl
          requested := fun requestedAt isRequest => by
            obtain rfl : occurredAt = requestedAt := Option.some.inj isRequest
            exact sound.created.trans clock
          status := by rw [active.running]; rfl
          phase := .inl ⟨active.running, active.unfinished, active.unended⟩ }
  | ended _ steps propagated terminal ended =>
      exact
        { sound with
          revision := rfl, steps, propagated, clock, updated := rfl, status := rfl
          phase := .inr ⟨terminal, ⟨rfl, rfl⟩, ended⟩ }

end Advances

end PolicyOS.Execution
