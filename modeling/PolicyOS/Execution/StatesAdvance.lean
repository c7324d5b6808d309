import PolicyOS.Execution.Runtime

/-!
# How one step state advances

An operation rewrites many step states at once, but each of them in one of a few
ways. `StepAdvance` lists these ways with their guards; that a terminal step
stays, that identifiers stay, and that a sound step state stays sound are each
one case analysis over it.
-/

namespace PolicyOS.Execution

open Foundation

/-- The checks a step state makes on itself, read back. -/
structure ValidStep (item : RuntimeStepState) : Prop where
  unresolved : item.status ∈ RuntimeStepStatus.waiting → item.result = none
  running : item.status = .running →
    item.startedAt ≠ none ∧ item.dispatchId ≠ none ∧ 1 ≤ item.attemptCount
  ended : item.status ∈ RuntimeStepStatus.terminal → item.completedAt ≠ none
  succeeded : item.status = .succeeded → ∃ result ∈ item.result, result.status = .succeeded
  failed : item.status ∈ [.failed, .timedOut] → item.lastError ≠ none

theorem validState_eq_ok_iff {item : RuntimeStepState} :
    item.validState = .ok () ↔ ValidStep item := by
  simp only [RuntimeStepState.validState, bind_eq_ok_iff, exists_unit_iff, rejectIf_eq_ok_iff,
    not_and, not_or, not_not, not_lt]
  constructor
  · rintro ⟨unresolved, running, ended, succeeded, failed⟩
    exact ⟨unresolved, running, ended, succeeded, failed⟩
  · rintro ⟨unresolved, running, ended, succeeded, failed⟩
    exact ⟨unresolved, running, ended, succeeded, failed⟩

/-- What holds of the state of a step at every instant of a run: its own checks,
a result exactly when it has ended, and attempts within its policy. -/
structure StepSound (step : ExecutionStep) (updatedAt : DateTime) (item : RuntimeStepState) :
    Prop where
  stepId : item.stepId = step.stepId
  valid : ValidStep item
  unresolved : item.status ∉ RuntimeStepStatus.terminal → item.result = none
  resolved : item.status ∈ RuntimeStepStatus.terminal →
    ∃ result, item.result = some result ∧ result.stepId = item.stepId
  attempts : item.attemptCount ≤ step.retryPolicy.maxAttempts
  attemptsLeft : item.status ∈ RuntimeStepStatus.waiting →
    item.attemptCount < step.retryPolicy.maxAttempts
  begun : ∀ startedAt ∈ item.startedAt, startedAt ≤ updatedAt

namespace StepSound

variable {step : ExecutionStep} {updatedAt : DateTime} {item : RuntimeStepState}

/-- A waiting step without a result and with attempts left is sound. -/
theorem of_waiting (status : RuntimeStepStatus) (stepId : item.stepId = step.stepId)
    (same : item.status = status) (waits : status ∈ RuntimeStepStatus.waiting)
    (unresolved : item.result = none)
    (attemptsLeft : item.attemptCount < step.retryPolicy.maxAttempts)
    (begun : ∀ startedAt ∈ item.startedAt, startedAt ≤ updatedAt) :
    StepSound step updatedAt item := by
  subst same
  have unended := RuntimeStepStatus.not_terminal_of_waiting waits
  refine
    { stepId, begun
      valid :=
        { unresolved := fun _ => unresolved
          running := fun runs => ?_
          ended := fun ended => absurd ended unended
          succeeded := fun success => absurd (success ▸ by decide) unended
          failed := fun failed => ?_ }
      unresolved := fun _ => unresolved
      resolved := fun ended => absurd ended unended
      attempts := attemptsLeft.le
      attemptsLeft := fun _ => attemptsLeft }
  · rw [runs] at waits
    exact absurd waits (by decide)
  · refine absurd ((RuntimeStepStatus.mem_terminal_iff _).mpr (.inr ?_)) unended
    revert failed
    cases item.status <;> decide

/-- A running step with its dispatch and start is sound. -/
theorem of_running (stepId : item.stepId = step.stepId) (runs : item.status = .running)
    (started : item.startedAt = some updatedAt) (dispatched : item.dispatchId ≠ none)
    (attempted : 1 ≤ item.attemptCount) (unresolved : item.result = none)
    (attempts : item.attemptCount ≤ step.retryPolicy.maxAttempts) :
    StepSound step updatedAt item where
  stepId := stepId
  valid :=
    { unresolved := fun _ => unresolved
      running := fun _ => ⟨by rw [started]; exact Option.some_ne_none _, dispatched, attempted⟩
      ended := fun ended => absurd (runs ▸ ended) (by decide)
      succeeded := fun success => absurd (runs.symm.trans success) (by decide)
      failed := fun failed => absurd (runs ▸ failed) (by decide) }
  unresolved := fun _ => unresolved
  resolved := fun ended => absurd (runs ▸ ended) (by decide)
  attempts := attempts
  attemptsLeft := fun waits => absurd (runs ▸ waits) (by decide)
  begun := by
    intro startedAt isStart
    rw [started] at isStart
    exact (Option.some.inj isStart).ge

/-- A step that has ended with a result of its own is sound. -/
theorem of_ended (status : RuntimeStepStatus) {result : StepResult}
    (stepId : item.stepId = step.stepId) (same : item.status = status)
    (ended : status ∈ RuntimeStepStatus.terminal) (completed : item.completedAt ≠ none)
    (resolved : item.result = some result) (own : result.stepId = item.stepId)
    (succeeded : status = .succeeded → result.status = .succeeded)
    (failed : status ∈ [.failed, .timedOut] → item.lastError ≠ none)
    (attempts : item.attemptCount ≤ step.retryPolicy.maxAttempts)
    (begun : ∀ startedAt ∈ item.startedAt, startedAt ≤ updatedAt) :
    StepSound step updatedAt item := by
  subst same
  exact
    { stepId, attempts, begun
      valid :=
        { unresolved := fun waits =>
            absurd ended (RuntimeStepStatus.not_terminal_of_waiting waits)
          running := fun runs => absurd (runs ▸ ended) (by decide)
          ended := fun _ => completed
          succeeded := fun success => ⟨result, resolved, succeeded success⟩
          failed := failed }
      unresolved := fun unended => absurd ended unended
      resolved := fun _ => ⟨result, resolved, own⟩
      attemptsLeft := fun waits =>
        absurd ended (RuntimeStepStatus.not_terminal_of_waiting waits) }

end StepSound

/-- The ways one operation at an instant can change the state of a step. -/
inductive StepAdvance (step : ExecutionStep) (occurredAt : DateTime) :
    RuntimeStepState → RuntimeStepState → Prop where
  | kept {item : RuntimeStepState} : StepAdvance step occurredAt item item
  | dispatched {item : RuntimeStepState} {dispatchId : UUID}
      (waits : item.status ∈ RuntimeStepStatus.waiting)
      (room : item.attemptCount + 1 ≤ step.retryPolicy.maxAttempts) :
      StepAdvance step occurredAt item
        (item.dispatched (item.attemptCount + 1) occurredAt dispatchId)
  | succeeded {item : RuntimeStepState} {result : StepResult}
      (runs : item.status = .running)
      (success : result.status = .succeeded)
      (own : result.stepId = item.stepId) :
      StepAdvance step occurredAt item (item.succeeded result occurredAt)
  | retryScheduled {item : RuntimeStepState} {error : ExecutionError}
      {nextRetryAt : Option DateTime}
      (runs : item.status = .running)
      (room : item.attemptCount < step.retryPolicy.maxAttempts) :
      StepAdvance step occurredAt item (item.retryScheduled error nextRetryAt)
  | failed {item : RuntimeStepState} {error : ExecutionError} {result : StepResult}
      (runs : item.status = .running)
      (own : result.stepId = item.stepId) :
      StepAdvance step occurredAt item (item.failed error result occurredAt)
  | readied {item : RuntimeStepState}
      (waits : item.status ∈ RuntimeStepStatus.waiting) :
      StepAdvance step occurredAt item (item.readied occurredAt)
  | skipped {item : RuntimeStepState}
      (waits : item.status ∈ RuntimeStepStatus.waiting) :
      StepAdvance step occurredAt item (item.skipped (skippedResult item occurredAt) occurredAt)
  | cancelled {item : RuntimeStepState} {result : StepResult}
      (unended : item.status ∉ RuntimeStepStatus.terminal)
      (own : result.stepId = item.stepId) :
      StepAdvance step occurredAt item (item.cancelled result occurredAt)

namespace StepAdvance

variable {step : ExecutionStep} {occurredAt updatedAt : DateTime} {item next : RuntimeStepState}

theorem stepId (advance : StepAdvance step occurredAt item next) : next.stepId = item.stepId := by
  cases advance <;> rfl

/-- A step that has ended never changes again. -/
theorem of_terminal (advance : StepAdvance step occurredAt item next)
    (ended : item.status ∈ RuntimeStepStatus.terminal) : next = item := by
  have unwaiting : item.status ∉ RuntimeStepStatus.waiting :=
    fun waits => RuntimeStepStatus.not_terminal_of_waiting waits ended
  have unrunning : item.status ≠ .running := by
    intro runs
    rw [runs] at ended
    revert ended
    decide
  cases advance with
  | kept => rfl
  | dispatched waits _ => exact absurd waits unwaiting
  | succeeded runs _ _ => exact absurd runs unrunning
  | retryScheduled runs _ => exact absurd runs unrunning
  | failed runs _ => exact absurd runs unrunning
  | readied waits => exact absurd waits unwaiting
  | skipped waits => exact absurd waits unwaiting
  | cancelled unended _ => exact absurd ended unended

/-- A sound step state stays sound. -/
theorem sound (advance : StepAdvance step occurredAt item next)
    (sound : StepSound step updatedAt item) (later : updatedAt ≤ occurredAt) :
    StepSound step occurredAt next := by
  have begun : ∀ startedAt ∈ item.startedAt, startedAt ≤ occurredAt :=
    fun startedAt started => (sound.begun startedAt started).trans later
  cases advance with
  | kept => exact { sound with begun }
  | dispatched waits room =>
      exact .of_running sound.stepId rfl rfl (Option.some_ne_none _) (Nat.le_add_left 1 _)
        (sound.unresolved (RuntimeStepStatus.not_terminal_of_waiting waits)) room
  | succeeded runs success own =>
      exact .of_ended .succeeded sound.stepId rfl (by decide) (Option.some_ne_none _) rfl own
        (fun _ => success) (fun failed => absurd failed (by decide)) sound.attempts begun
  | retryScheduled runs room =>
      exact .of_waiting .blocked sound.stepId rfl (by decide)
        (sound.unresolved (runs ▸ by decide)) room (fun _ started => nomatch started)
  | @failed error result runs own =>
      by_cases late : result.status = .timedOut
      · exact .of_ended .timedOut sound.stepId (if_pos late) (by decide) (Option.some_ne_none _)
          rfl own (fun success => absurd success (by decide)) (fun _ => Option.some_ne_none _)
          sound.attempts begun
      · exact .of_ended .failed sound.stepId (if_neg late) (by decide) (Option.some_ne_none _)
          rfl own (fun success => absurd success (by decide)) (fun _ => Option.some_ne_none _)
          sound.attempts begun
  | readied waits =>
      exact .of_waiting .ready sound.stepId rfl (by decide)
        (sound.unresolved (RuntimeStepStatus.not_terminal_of_waiting waits))
        (sound.attemptsLeft waits) begun
  | skipped waits =>
      exact .of_ended .skipped sound.stepId rfl (by decide) (Option.some_ne_none _) rfl rfl
        (fun success => absurd success (by decide)) (fun failed => absurd failed (by decide))
        sound.attempts begun
  | cancelled unended own =>
      exact .of_ended .cancelled sound.stepId rfl (by decide) (Option.some_ne_none _) rfl own
        (fun success => absurd success (by decide)) (fun failed => absurd failed (by decide))
        sound.attempts begun

end StepAdvance

end PolicyOS.Execution

/-!
# How all step states advance

The invariant of the step states of a plan: one sound state for each step, a
running step only after everything it depends on, and nothing left waiting on a
failure. Each way the runtime rewrites the list, replacing one step and then
refreshing or propagating, or cancelling the rest, keeps it.
-/

namespace PolicyOS.Execution

open Foundation

variable {plan : ExecutionPlan} {step : ExecutionStep} {items nexts : List RuntimeStepState}
  {item next current replacement : RuntimeStepState} {occurredAt updatedAt : DateTime}

/-! ## Lookups -/

theorem stepOf_eq_ok_iff {stepId : String} :
    stepOf plan stepId = .ok step ↔ step ∈ plan.steps ∧ step.stepId = stepId := by
  rw [← find?_key_eq_some_iff plan.stepIds_nodup, stepOf]
  cases plan.steps.find? (·.stepId = stepId) <;> simp

theorem stateOf_eq_ok_iff {state : ExecutionRuntimeState} {stepId : String}
    (distinct : (state.stepStates.map (·.stepId)).Nodup) :
    stateOf state stepId = .ok item ↔ item ∈ state.stepStates ∧ item.stepId = stepId := by
  rw [← find?_key_eq_some_iff distinct, stateOf]
  cases state.stepStates.find? (·.stepId = stepId) <;> simp

theorem statesById_eq_some_iff {stepId : String} (distinct : (items.map (·.stepId)).Nodup) :
    statesById items stepId = some item ↔ item ∈ items ∧ item.stepId = stepId :=
  find?_reverse_key_eq_some_iff distinct

theorem dependencySucceeded_iff {dependency : String} (distinct : (items.map (·.stepId)).Nodup) :
    dependencySucceeded items dependency ↔
      ∃ item ∈ items, item.stepId = dependency ∧ item.status = .succeeded := by
  simp only [dependencySucceeded, Option.map_eq_some_iff, statesById_eq_some_iff distinct,
    and_assoc]

theorem hasFailedRequiredDependency_iff (distinct : (items.map (·.stepId)).Nodup) :
    hasFailedRequiredDependency step (statesById items) ↔
      ∃ dependency ∈ step.dependencies, ∃ item ∈ items, item.stepId = dependency ∧
        item.status ∈ RuntimeStepStatus.failedStatuses := by
  simp only [hasFailedRequiredDependency, Option.mem_def, statesById_eq_some_iff distinct,
    and_assoc]

/-! ## The invariant -/

/-- What holds of the step states of a plan at every instant of a run. -/
structure StatesSound (plan : ExecutionPlan) (updatedAt : DateTime)
    (items : List RuntimeStepState) : Prop where
  listed : (items.map (·.stepId)).Perm plan.stepIds
  sound : ∀ item ∈ items, ∃ step ∈ plan.steps, StepSound step updatedAt item
  met : ∀ step ∈ plan.steps, ∀ item ∈ items, item.stepId = step.stepId →
    item.status = .running → allDependenciesSucceeded step items

namespace StatesSound

theorem distinct (sound : StatesSound plan updatedAt items) : (items.map (·.stepId)).Nodup :=
  sound.listed.nodup_iff.mpr plan.stepIds_nodup

theorem exists_item (sound : StatesSound plan updatedAt items) (isStep : step ∈ plan.steps) :
    ∃ item ∈ items, item.stepId = step.stepId :=
  List.mem_map.mp (sound.listed.mem_iff.mpr (List.mem_map_of_mem isStep))

theorem of_step (sound : StatesSound plan updatedAt items) (present : item ∈ items)
    (isStep : step ∈ plan.steps) (own : step.stepId = item.stepId) :
    StepSound step updatedAt item := by
  obtain ⟨other, isOther, itsOwn⟩ := sound.sound item present
  rwa [plan.step_unique isStep isOther (own.trans itsOwn.stepId)]

end StatesSound

/-- Every step that depends on a failed one has ended. -/
def FailuresPropagated (plan : ExecutionPlan) (items : List RuntimeStepState) : Prop :=
  ∀ step ∈ plan.steps, ∀ item ∈ items, item.stepId = step.stepId →
    hasFailedRequiredDependency step (statesById items) →
      item.status ∈ RuntimeStepStatus.terminal

/-- A later list of states has the steps of an earlier one, in its order, and
those that had ended as they were. -/
structure Continues (items nexts : List RuntimeStepState) : Prop where
  stepIds : nexts.map (·.stepId) = items.map (·.stepId)
  ended : ∀ item ∈ items, item.status ∈ RuntimeStepStatus.terminal → item ∈ nexts

namespace Continues

theorem refl (items : List RuntimeStepState) : Continues items items :=
  ⟨rfl, fun _ present _ => present⟩

theorem trans {first second third : List RuntimeStepState} (earlier : Continues first second)
    (later : Continues second third) : Continues first third :=
  ⟨later.stepIds.trans earlier.stepIds,
    fun item present ended => later.ended item (earlier.ended item present ended) ended⟩

theorem allDependenciesSucceeded (continues : Continues items nexts)
    (distinct : (items.map (·.stepId)).Nodup) (met : allDependenciesSucceeded step items) :
    allDependenciesSucceeded step nexts := by
  have distinctNexts : (nexts.map (·.stepId)).Nodup := continues.stepIds ▸ distinct
  intro dependency depends
  obtain ⟨item, present, same, success⟩ :=
    (dependencySucceeded_iff distinct).mp (met dependency depends)
  refine (dependencySucceeded_iff distinctNexts).mpr ⟨item, ?_, same, success⟩
  exact continues.ended item present (success ▸ by decide)

end Continues

/-! ## Advancing all of them -/

/-- Each step state advances in one of the ways one of them can. -/
def StatesAdvance (plan : ExecutionPlan) (occurredAt : DateTime)
    (items nexts : List RuntimeStepState) : Prop :=
  List.Forall₂ (fun item next => ∃ step ∈ plan.steps, step.stepId = item.stepId ∧
    StepAdvance step occurredAt item next) items nexts

namespace StatesAdvance

theorem continues (advance : StatesAdvance plan occurredAt items nexts) :
    Continues items nexts where
  stepIds := map_key_of_rewritten advance fun ⟨_, _, _, advances⟩ => advances.stepId
  ended := by
    intro item present ended
    obtain ⟨next, isNext, _, _, _, advances⟩ := exists_rewritten_of_mem advance present
    rwa [← advances.of_terminal ended]

/-- Where no step newly fails, no dependent is newly left waiting. -/
theorem failuresPropagated (advance : StatesAdvance plan occurredAt items nexts)
    (distinct : (items.map (·.stepId)).Nodup) (propagated : FailuresPropagated plan items)
    (noneFails : ∀ next ∈ nexts, next.status ∈ RuntimeStepStatus.failedStatuses → next ∈ items) :
    FailuresPropagated plan nexts := by
  have distinctNexts : (nexts.map (·.stepId)).Nodup := advance.continues.stepIds ▸ distinct
  intro step isStep next isNext same failed
  obtain ⟨item, present, _, _, _, advances⟩ := exists_of_mem_rewritten advance isNext
  obtain ⟨dependency, depends, other, isOther, otherSame, otherFailed⟩ :=
    (hasFailedRequiredDependency_iff distinctNexts).mp failed
  have ended : item.status ∈ RuntimeStepStatus.terminal :=
    propagated step isStep item present (advances.stepId.symm.trans same)
      ((hasFailedRequiredDependency_iff distinct).mpr
        ⟨dependency, depends, other, noneFails other isOther otherFailed, otherSame,
          otherFailed⟩)
  rwa [advances.of_terminal ended]

/-- The invariant is kept when steps start only after their dependencies. -/
theorem statesSound (advance : StatesAdvance plan occurredAt items nexts)
    (sound : StatesSound plan updatedAt items) (later : updatedAt ≤ occurredAt)
    (starts : ∀ next ∈ nexts, next.status = .running → next ∈ items ∨
      ∀ step ∈ plan.steps, next.stepId = step.stepId → allDependenciesSucceeded step items) :
    StatesSound plan occurredAt nexts where
  listed := advance.continues.stepIds ▸ sound.listed
  sound := by
    intro next isNext
    obtain ⟨item, present, step, isStep, own, advances⟩ := exists_of_mem_rewritten advance isNext
    exact ⟨step, isStep, advances.sound (sound.of_step present isStep own) later⟩
  met := by
    intro step isStep next isNext same runs
    rcases starts next isNext runs with kept | dispatched
    · exact advance.continues.allDependenciesSucceeded sound.distinct
        (sound.met step isStep next kept same runs)
    · exact advance.continues.allDependenciesSucceeded sound.distinct
        (dispatched step isStep same)

end StatesAdvance

/-! ## Replacing one step -/

theorem replacedBy_cases (distinct : (items.map (·.stepId)).Nodup) (isCurrent : current ∈ items)
    (same : replacement.stepId = current.stepId) (present : item ∈ items) :
    (item = current ∧ replacedBy replacement item = replacement) ∨
      (item ≠ current ∧ replacedBy replacement item = item) := by
  by_cases own : item.stepId = replacement.stepId
  · left
    exact ⟨List.inj_on_of_nodup_map distinct present isCurrent (own.trans same), if_pos own⟩
  · right
    exact ⟨fun equal => own (equal ▸ same.symm), if_neg own⟩

theorem mem_replaced_cases (present : next ∈ items.map (replacedBy replacement)) :
    next = replacement ∨ (next ∈ items ∧ next.stepId ≠ replacement.stepId) := by
  obtain ⟨item, isItem, rfl⟩ := List.mem_map.mp present
  unfold replacedBy
  split
  · exact .inl rfl
  · rename_i different
    exact .inr ⟨isItem, different⟩

theorem mem_replaced_of_ne (present : item ∈ items) (different : item.stepId ≠ replacement.stepId) :
    item ∈ items.map (replacedBy replacement) :=
  List.mem_map.mpr ⟨item, present, if_neg different⟩

theorem replacement_mem (isCurrent : current ∈ items)
    (same : replacement.stepId = current.stepId) :
    replacement ∈ items.map (replacedBy replacement) :=
  List.mem_map.mpr ⟨current, isCurrent, if_pos same.symm⟩

namespace StatesSound

/-- Replacing one step by an advance of it advances all step states. -/
theorem advance_replaced (sound : StatesSound plan updatedAt items)
    (isCurrent : current ∈ items) (isStep : step ∈ plan.steps)
    (own : step.stepId = current.stepId)
    (advances : StepAdvance step occurredAt current replacement) :
    StatesAdvance plan occurredAt items (items.map (replacedBy replacement)) := by
  refine forall₂_map_self_iff.mpr fun item present => ?_
  rcases replacedBy_cases sound.distinct isCurrent advances.stepId present with
    ⟨rfl, replaced⟩ | ⟨_, kept⟩
  · refine ⟨step, isStep, own, ?_⟩
    rwa [replaced]
  · obtain ⟨other, isOther, itsOwn⟩ := sound.sound item present
    refine ⟨other, isOther, itsOwn.stepId.symm, ?_⟩
    rw [kept]
    exact .kept

/-- The replacement keeps the invariant, if it starts only after its dependencies. -/
theorem replaced (sound : StatesSound plan updatedAt items) (later : updatedAt ≤ occurredAt)
    (isCurrent : current ∈ items) (isStep : step ∈ plan.steps)
    (own : step.stepId = current.stepId)
    (advances : StepAdvance step occurredAt current replacement)
    (starts : replacement.status = .running → allDependenciesSucceeded step items) :
    StatesSound plan occurredAt (items.map (replacedBy replacement)) := by
  refine (sound.advance_replaced isCurrent isStep own advances).statesSound sound later ?_
  intro next isNext runs
  rcases mem_replaced_cases isNext with rfl | ⟨kept, _⟩
  · right
    intro other isOther same
    rw [plan.step_unique isOther isStep (same.symm.trans (advances.stepId.trans own.symm))]
    exact starts runs
  · exact .inl kept

/-- A replacement that has not failed leaves no dependent waiting on a failure. -/
theorem replaced_failuresPropagated (sound : StatesSound plan updatedAt items)
    (propagated : FailuresPropagated plan items) (isCurrent : current ∈ items)
    (isStep : step ∈ plan.steps) (own : step.stepId = current.stepId)
    (advances : StepAdvance step occurredAt current replacement)
    (unfailed : replacement.status ∉ RuntimeStepStatus.failedStatuses) :
    FailuresPropagated plan (items.map (replacedBy replacement)) := by
  refine (sound.advance_replaced isCurrent isStep own advances).failuresPropagated sound.distinct
    propagated fun next isNext failed => ?_
  rcases mem_replaced_cases isNext with rfl | ⟨kept, _⟩
  · exact absurd failed unfailed
  · exact kept

end StatesSound

/-! ## Refreshing which steps are ready -/

/-- A refresh changes only steps that wait. -/
theorem refreshed_cases {state : ExecutionRuntimeState} {now : Option DateTime}
    (distinct : (state.stepStates.map (·.stepId)).Nodup) (present : item ∈ state.stepStates) :
    refreshed (readyStepIds plan state now) occurredAt item = item ∨
      (item.status ∈ RuntimeStepStatus.waiting ∧
        refreshed (readyStepIds plan state now) occurredAt item = item.readied occurredAt) := by
  unfold refreshed
  split
  · rename_i changes
    right
    obtain ⟨_, step, _, same, other, isOther, waits, _⟩ := mem_readyStepIds.mp changes.1
    obtain ⟨otherPresent, otherSame⟩ := (statesById_eq_some_iff distinct).mp isOther
    obtain rfl : other = item :=
      List.inj_on_of_nodup_map distinct otherPresent present (otherSame.trans same)
    exact ⟨waits, rfl⟩
  · exact .inl rfl

namespace StatesSound

variable {state : ExecutionRuntimeState}

/-- A refresh advances all step states. -/
theorem advance_refreshed (sound : StatesSound plan updatedAt state.stepStates) :
    StatesAdvance plan occurredAt state.stepStates
      (refreshReady plan state occurredAt).1.stepStates := by
  refine forall₂_map_self_iff.mpr fun item present => ?_
  obtain ⟨step, isStep, own⟩ := sound.sound item present
  refine ⟨step, isStep, own.stepId.symm, ?_⟩
  rcases refreshed_cases sound.distinct present with kept | ⟨waits, readied⟩
  · rw [kept]
    exact .kept
  · rw [readied]
    exact .readied waits

theorem mem_or_ready_of_mem_refreshed (sound : StatesSound plan updatedAt state.stepStates)
    (isNext : next ∈ (refreshReady plan state occurredAt).1.stepStates) :
    next ∈ state.stepStates ∨ next.status = .ready := by
  obtain ⟨item, present, rfl⟩ := List.mem_map.mp isNext
  rcases refreshed_cases sound.distinct present with kept | ⟨_, readied⟩
  · left
    rwa [kept]
  · right
    rw [readied]
    rfl

theorem refreshed (sound : StatesSound plan updatedAt state.stepStates)
    (later : updatedAt ≤ occurredAt) :
    StatesSound plan occurredAt (refreshReady plan state occurredAt).1.stepStates :=
  sound.advance_refreshed.statesSound sound later fun _ isNext runs =>
    .inl ((sound.mem_or_ready_of_mem_refreshed isNext).resolve_right fun ready =>
      absurd (ready.symm.trans runs) (by decide))

theorem refreshed_failuresPropagated (sound : StatesSound plan updatedAt state.stepStates)
    (propagated : FailuresPropagated plan state.stepStates) :
    FailuresPropagated plan (refreshReady plan state occurredAt).1.stepStates :=
  sound.advance_refreshed.failuresPropagated sound.distinct propagated fun _ isNext failed =>
    (sound.mem_or_ready_of_mem_refreshed isNext).resolve_right fun ready =>
      absurd (ready ▸ failed) (by decide)

end StatesSound

/-! ## Cancelling every step that has not ended -/

/-- A cancelled step has ended, in one of the ways a step advances. -/
theorem cancelStep_spec (cancelled : cancelStep occurredAt item = .ok next) :
    next.status ∈ RuntimeStepStatus.terminal ∧ ∀ step, StepAdvance step occurredAt item next := by
  unfold cancelStep at cancelled
  split at cancelled
  · rename_i ended
    obtain rfl := Except.ok.inj cancelled
    exact ⟨ended, fun _ => .kept⟩
  · rename_i unended
    simp only [bind_eq_ok_iff, StepResult.validated_eq_ok_iff, pure_eq_ok_iff] at cancelled
    obtain ⟨result, fields, rfl⟩ := cancelled
    have ended : RuntimeStepStatus.cancelled ∈ RuntimeStepStatus.terminal := by decide
    refine ⟨ended, fun _ => .cancelled unended ?_⟩
    rw [fields]

namespace StatesSound

theorem advance_cancelled (sound : StatesSound plan updatedAt items)
    (cancelled : collectEach (cancelStep occurredAt) items = .ok nexts) :
    StatesAdvance plan occurredAt items nexts := by
  refine List.Forall₂.mp (Q := fun item next => item ∈ items ∧ cancelStep occurredAt item = .ok next)
    ?_ ?_ (collectEach_eq_ok_iff.mp cancelled)
  · rintro item next ⟨present, _⟩ isNext
    obtain ⟨step, isStep, own⟩ := sound.sound item present
    exact ⟨step, isStep, own.stepId.symm, (cancelStep_spec isNext).2 step⟩
  · exact (List.forall₂_and_left _ _).mpr
      ⟨fun _ present => present, collectEach_eq_ok_iff.mp cancelled⟩

theorem terminal_of_cancelled
    (cancelled : collectEach (cancelStep occurredAt) items = .ok nexts) (isNext : next ∈ nexts) :
    next.status ∈ RuntimeStepStatus.terminal := by
  obtain ⟨item, _, isCancelled⟩ :=
    exists_of_mem_rewritten (collectEach_eq_ok_iff.mp cancelled) isNext
  exact (cancelStep_spec isCancelled).1

theorem cancelled (sound : StatesSound plan updatedAt items) (later : updatedAt ≤ occurredAt)
    (cancelled : collectEach (cancelStep occurredAt) items = .ok nexts) :
    StatesSound plan occurredAt nexts :=
  (sound.advance_cancelled cancelled).statesSound sound later fun _ isNext runs =>
    absurd (runs ▸ terminal_of_cancelled cancelled isNext) (by decide)

end StatesSound

end PolicyOS.Execution
