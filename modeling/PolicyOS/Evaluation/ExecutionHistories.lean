import PolicyOS.Evaluation.ExecutionState
import PolicyOS.Foundation.Replay
import PolicyOS.Foundation.Transition

/-!
# Histories of evaluation executions

Every record that transitions build from a fresh one is checked twice: by each transition on the
way, against the record before it, and as a whole, from its own history and the decisions it is
given with. The two agree. What a transition leaves as it was is kept by a whole run, the history
of the last record is the transitions applied, and its states are a path.
-/

namespace PolicyOS.Evaluation

open Foundation

/-! ## Allowed transitions -/

/-- One state may follow another. -/
structure Allowed (fromState toState : EvaluationExecutionState) : Prop where
  changes : fromState ≠ toState
  notEnded : fromState.terminal = false
  succeedsOrEnds : successTransition fromState toState = true ∨ toState = .failed ∨
    toState = .cancelled

variable {fromState toState : EvaluationExecutionState}

/-- The check of a transition accepts what is allowed. -/
theorem validateStateTransition_eq_ok_iff :
    validateEvaluationExecutionStateTransition fromState toState = .ok () ↔
      Allowed fromState toState := by
  simp only [validateEvaluationExecutionStateTransition, bind_eq_ok_iff, exists_unit_iff,
    rejectIf_eq_ok_iff, Bool.not_eq_true, not_and, not_not]
  constructor
  · rintro ⟨changes, isOpen, ends⟩
    refine ⟨changes, isOpen, ?_⟩
    cases succeeds : successTransition fromState toState with
    | true => exact .inl rfl
    | false => exact .inr (ends succeeds)
  · rintro ⟨changes, isOpen, succeedsOrEnds⟩
    refine ⟨changes, isOpen, fun fails => succeedsOrEnds.resolve_left ?_⟩
    simp [fails]

/-- The states of an execution and the transitions between them. -/
def executionSystem : TransitionSystem EvaluationExecutionState EvaluationExecutionTransition where
  Initial state := state = .planned
  Step before transition after := transition.fromState = before ∧ transition.toState = after ∧
    Allowed before after

/-! ## Recorded histories -/

variable {executionId planId : UUID} {progress : HistoryProgress}
  {transition : EvaluationExecutionTransition} {transitions : List EvaluationExecutionTransition}
  {createdAt : DateTime}

/-- A transition follows what was read before it. -/
structure FollowsHistory (executionId planId : UUID) (progress : HistoryProgress)
    (transition : EvaluationExecutionTransition) : Prop where
  numbered : transition.sequenceNumber = progress.expectedSequence
  fresh : transition.transitionId ∉ progress.transitionIds
  bound : transition.evaluationExecutionId = executionId ∧ transition.evaluationPlanId = planId
  continues : transition.fromState = progress.expectedState
  later : progress.previousTime ≤ transition.transitionedAt
  allowed : Allowed transition.fromState transition.toState

/-- What is carried past a transition. -/
def HistoryProgress.past (progress : HistoryProgress)
    (transition : EvaluationExecutionTransition) : HistoryProgress where
  expectedSequence := progress.expectedSequence + 1
  expectedState := transition.toState
  previousTime := transition.transitionedAt
  transitionIds := progress.transitionIds ++ [transition.transitionId]

/-- What is carried into a history. -/
def HistoryProgress.start (createdAt : DateTime) : HistoryProgress := ⟨1, .planned, createdAt, []⟩

theorem readTransition_eq_ok_iff {next : HistoryProgress} :
    readTransition executionId planId progress transition = .ok next ↔
      FollowsHistory executionId planId progress transition ∧ progress.past transition = next := by
  simp only [readTransition, bind_eq_ok_iff, exists_unit_iff, rejectIf_eq_ok_iff,
    validateStateTransition_eq_ok_iff, pure_eq_ok_iff, not_or, not_not, not_lt, ne_eq]
  constructor
  · rintro ⟨numbered, fresh, bound, continues, later, allowed, rfl⟩
    exact ⟨⟨numbered, fresh, bound, continues, later, allowed⟩, rfl⟩
  · rintro ⟨⟨numbered, fresh, bound, continues, later, allowed⟩, rfl⟩
    exact ⟨numbered, fresh, bound, continues, later, allowed, rfl⟩

theorem validateHistory_eq_ok_iff :
    validateEvaluationTransitionHistory transitions executionId planId createdAt = .ok () ↔
      Replayed (FollowsHistory executionId planId) HistoryProgress.past (.start createdAt)
        transitions := by
  simp only [validateEvaluationTransitionHistory, bind_eq_ok_iff, pure_eq_ok_iff, and_true]
  constructor
  · rintro ⟨_, read⟩
    exact ((Replayed.foldlM_eq_ok_iff readTransition_eq_ok_iff).mp read).1
  · intro replayed
    exact ⟨_, (Replayed.foldlM_eq_ok_iff readTransition_eq_ok_iff).mpr ⟨replayed, rfl⟩⟩

theorem expectedState_foldl (transitions : List EvaluationExecutionTransition)
    (createdAt : DateTime) :
    (transitions.foldl HistoryProgress.past (.start createdAt)).expectedState =
      stateAfter transitions := by
  induction transitions using List.reverseRecOn with
  | nil => rfl
  | append_singleton earlier last _ => simp [HistoryProgress.past, stateAfter]

/-- The transitions that were read are a path from the planned state. -/
def PathRead (transitions : List EvaluationExecutionTransition) (progress : HistoryProgress) :
    Prop :=
  executionSystem.Steps .planned transitions progress.expectedState

theorem PathRead.nil (createdAt : DateTime) : PathRead [] (.start createdAt) := .refl

theorem PathRead.past (path : PathRead transitions progress)
    (follows : FollowsHistory executionId planId progress transition) :
    PathRead (transitions ++ [transition]) (progress.past transition) := by
  refine TransitionSystem.Steps.step path ⟨follows.continues, rfl, ?_⟩
  rw [← follows.continues]
  exact follows.allowed

theorem steps_of_validateHistory
    (valid : validateEvaluationTransitionHistory transitions executionId planId createdAt =
      .ok ()) :
    executionSystem.Steps .planned transitions (stateAfter transitions) := by
  have path := Replayed.holds_throughout (PathRead.nil createdAt) PathRead.past
    (validateHistory_eq_ok_iff.mp valid)
  rwa [PathRead, expectedState_foldl] at path

/-! ## Records -/

/-- What the validators of a record guarantee. -/
structure RecordConsistent (fields : EvaluationExecutionRecordFields) : Prop where
  covers : notLower fields.classification fields.executionContext.classification
  starts : fields.initialState = .planned
  history : validateEvaluationTransitionHistory fields.transitions fields.evaluationExecutionId
    fields.evaluationPlanId fields.createdAt = .ok ()
  current : fields.currentState = stateAfter fields.transitions
  updated : fields.updatedAt = updatedAfter fields.transitions fields.createdAt
  executionId : fields.executionContext.evaluationExecutionId = fields.evaluationExecutionId
  planId : fields.executionContext.evaluationPlanId = fields.evaluationPlanId
  runRequestId : fields.executionContext.evaluationRunRequestId = fields.evaluationRunRequestId
  planVersion : fields.executionContext.evaluationPlanVersion = fields.evaluationPlanVersion
  created : fields.executionContext.createdAt = fields.createdAt

theorem EvaluationExecutionRecord.consistent (record : EvaluationExecutionRecord) :
    RecordConsistent record.toEvaluationExecutionRecordFields := by
  have valid := record.internallyConsistent
  simp only [EvaluationExecutionRecordFields.validate, bind_eq_ok_iff, exists_unit_iff,
    requireClassificationNotLower_eq_ok_iff, rejectIf_eq_ok_iff, not_or, not_not, ne_eq,
    List.forall_mem_singleton] at valid
  obtain ⟨⟨-, covers⟩, starts, -, history, current, updated, executionId, planId, runRequestId,
    planVersion, created⟩ := valid
  exact ⟨covers, starts, history, current, updated, executionId, planId, runRequestId, planVersion,
    created⟩

/-- A transition is allowed by its decision in a context. -/
def Authorized (context : EvaluationExecutionContext)
    (given : EvaluationExecutionTransition × EvaluationDataAccessDecision) : Prop :=
  validateEvaluationExecutionAuthorization given.1.authorizationBinding given.2 context given.1 =
    .ok ()

/-- A context is bound to a plan. -/
def Bound (plan : EvaluationPlan) (context : EvaluationExecutionContext) : Prop :=
  validateEvaluationExecutionPlanBinding context plan = .ok ()

section Runs

variable {plan : EvaluationPlan} {context : EvaluationExecutionContext}
  {record next fresh final : EvaluationExecutionRecord} {decision : EvaluationDataAccessDecision}
  {given earlier : List (EvaluationExecutionTransition × EvaluationDataAccessDecision)}

theorem Bound.agrees (bound : Bound plan context) :
    notLower context.classification plan.classification ∧
      context.evaluationPlanVersion = plan.evaluationPlanVersion := by
  simp only [Bound, validateEvaluationExecutionPlanBinding, bind_eq_ok_iff, exists_unit_iff,
    requireClassificationNotLower_eq_ok_iff, rejectIf_eq_ok_iff, not_not, ne_eq,
    List.forall_mem_singleton] at bound
  exact ⟨bound.1.2, congrArg PlanTerms.evaluationPlanVersion bound.2⟩

/-- A record of a bound context is accepted with the decisions that allow its transitions. -/
theorem validateRecord_of_bound (bound : Bound plan record.executionContext)
    (transitions : record.transitions = given.map (·.1))
    (authorized : ∀ item ∈ given, Authorized record.executionContext item) :
    validateEvaluationExecutionRecord record plan (given.map (·.2)) = .ok () := by
  have consistent := record.consistent
  obtain ⟨covers, version⟩ := bound.agrees
  have paired : record.transitions.zip (given.map (·.2)) = given := by
    rw [transitions, List.zip_map', List.map_id'']
    exact fun _ => rfl
  simp only [validateEvaluationExecutionRecord, bind_eq_ok_iff, exists_unit_iff,
    requireClassificationNotLower_eq_ok_iff, rejectIf_eq_ok_iff, checkEach_eq_ok_iff, paired,
    not_or, not_not, ne_eq, List.forall_mem_cons]
  refine ⟨⟨by simp, notLower_trans consistent.covers covers, consistent.covers, by simp⟩, bound,
    ⟨consistent.executionId.symm, consistent.planId.symm, consistent.planVersion.symm,
      consistent.runRequestId.symm, consistent.created.symm⟩, consistent.history,
    consistent.starts, consistent.current, consistent.updated,
    consistent.planVersion.symm.trans version, by simp [transitions], authorized⟩

/-! ## Runs -/

/-- What an applied transition was checked for, and what it leaves. -/
structure Applied (plan : EvaluationPlan) (record next : EvaluationExecutionRecord)
    (transition : EvaluationExecutionTransition) (decision : EvaluationDataAccessDecision) :
    Prop where
  bound : Bound plan record.executionContext
  allowed : Allowed record.currentState transition.toState
  authorized : Authorized record.executionContext (transition, decision)
  fields : next.toEvaluationExecutionRecordFields = record.afterTransition transition

theorem applied_of_apply
    (applied : applyEvaluationExecutionTransition record transition plan decision = .ok next) :
    Applied plan record next transition decision := by
  simp only [applyEvaluationExecutionTransition, validateEvaluationExecutionTransition,
    bind_eq_ok_iff, exists_unit_iff, rejectIf_eq_ok_iff, validateStateTransition_eq_ok_iff,
    buildChecked_eq_ok_iff, not_not, ne_eq] at applied
  obtain ⟨⟨bound, -, -, continues, -, allowed, authorized⟩, _, rfl⟩ := applied
  rw [continues] at allowed
  exact ⟨bound, allowed, authorized, rfl⟩

/-- Apply transitions one after another, each with the decision on it. -/
def applyEach (plan : EvaluationPlan) (record : EvaluationExecutionRecord)
    (given : List (EvaluationExecutionTransition × EvaluationDataAccessDecision)) :
    Except EvaluationError EvaluationExecutionRecord :=
  given.foldlM (fun record item =>
    applyEvaluationExecutionTransition record item.1 plan item.2) record

/-- What a run builds from a record without a history. -/
structure BuiltFrom (plan : EvaluationPlan) (fresh : EvaluationExecutionRecord)
    (given : List (EvaluationExecutionTransition × EvaluationDataAccessDecision))
    (record : EvaluationExecutionRecord) : Prop where
  context : record.executionContext = fresh.executionContext
  transitions : record.transitions = given.map (·.1)
  authorized : ∀ item ∈ given, Authorized fresh.executionContext item
  bound : given ≠ [] → Bound plan fresh.executionContext

/-- One transition more is built on a run. -/
theorem BuiltFrom.snoc (built : BuiltFrom plan fresh given record)
    (applied : Applied plan record next transition decision) :
    BuiltFrom plan fresh (given ++ [(transition, decision)]) next where
  context := by
    rw [applied.fields]
    exact built.context
  transitions := by
    rw [applied.fields, List.map_append, ← built.transitions]
    rfl
  authorized := by
    intro item isItem
    rcases List.mem_append.mp isItem with isEarlier | isLast
    · exact built.authorized item isEarlier
    · obtain rfl := List.mem_singleton.mp isLast
      exact built.context ▸ applied.authorized
  bound _ := built.context ▸ applied.bound

/-- A run from a record without a history builds on it. -/
theorem builtFrom_of_applyEach (unstarted : fresh.transitions = [])
    (ran : applyEach plan fresh given = .ok final) : BuiltFrom plan fresh given final := by
  induction given using List.reverseRecOn generalizing final with
  | nil =>
      obtain rfl := Except.ok.inj ran
      exact ⟨rfl, unstarted, by simp, by simp⟩
  | append_singleton earlier last ih =>
      simp only [applyEach, List.foldlM_append, bind_eq_ok_iff, List.foldlM_cons, List.foldlM_nil,
        pure_eq_ok_iff] at ran
      obtain ⟨middle, before, _, applied, rfl⟩ := ran
      exact (ih before).snoc (applied_of_apply applied)

theorem exists_of_applyEach_append
    {later : List (EvaluationExecutionTransition × EvaluationDataAccessDecision)}
    (ran : applyEach plan fresh (earlier ++ later) = .ok final) :
    ∃ record, applyEach plan fresh earlier = .ok record ∧
      applyEach plan record later = .ok final := by
  rwa [applyEach, List.foldlM_append, bind_eq_ok_iff] at ran

/-- A run that was applied step by step is one that the check of a whole record accepts. -/
structure HistoryAgrees (plan : EvaluationPlan) (fresh : EvaluationExecutionRecord)
    (given : List (EvaluationExecutionTransition × EvaluationDataAccessDecision))
    (final : EvaluationExecutionRecord) : Prop where
  /-- The check accepts the last record with the decisions; where there are none, if it accepted
  the fresh record. -/
  accepted : given ≠ [] ∨ validateEvaluationExecutionRecord fresh plan [] = .ok () →
    validateEvaluationExecutionRecord final plan (given.map (·.2)) = .ok ()
  extended : ∀ earlier later record, given = earlier ++ later →
    applyEach plan fresh earlier = .ok record → record.transitions <+: final.transitions
  path : executionSystem.Steps .planned final.transitions final.currentState
  notEnded : ∀ earlier item later record, given = earlier ++ item :: later →
    applyEach plan fresh earlier = .ok record → record.currentState.terminal = false

/-- Applying transitions and checking the record they lead to agree. -/
theorem historyAgrees_of_applyEach (unstarted : fresh.transitions = [])
    (ran : applyEach plan fresh given = .ok final) : HistoryAgrees plan fresh given final := by
  have built := builtFrom_of_applyEach unstarted ran
  refine ⟨?_, ?_, ?_, ?_⟩
  · intro checked
    cases given with
    | nil =>
        obtain rfl := Except.ok.inj ran
        exact checked.resolve_left (by simp)
    | cons item rest =>
        refine validateRecord_of_bound ?_ built.transitions ?_
        · rw [built.context]
          exact built.bound (List.cons_ne_nil _ _)
        · rw [built.context]
          exact built.authorized
  · rintro earlier later record rfl before
    rw [built.transitions, (builtFrom_of_applyEach unstarted before).transitions, List.map_append]
    exact List.prefix_append _ _
  · have consistent := final.consistent
    rw [consistent.current]
    exact steps_of_validateHistory consistent.history
  · rintro earlier item later record rfl before
    obtain ⟨_, isBefore, after⟩ := exists_of_applyEach_append ran
    obtain rfl := Except.ok.inj (before.symm.trans isBefore)
    rw [applyEach, List.foldlM_cons, bind_eq_ok_iff] at after
    obtain ⟨_, applied, -⟩ := after
    exact (applied_of_apply applied).allowed.notEnded

end Runs

namespace ExecutionSample

/-- A plan of a public evaluation. -/
def plan : EvaluationPlan where
  evaluationPlanId := 1
  evaluationRunRequestId := 2
  evaluationDefinitionId := 3
  evaluationPolicyReferenceId := 4
  evaluationPolicyRevision := 1
  targetReferenceId := 5
  datasetReferenceId := 6
  datasetManifestReferenceId := 7
  datasetSplitReferenceId := 8
  evaluatorReferenceId := 9
  evaluationRegistrySnapshotReferenceId := 10
  registryRevision := 1
  tenantId := 11
  organizationId := 12
  classification := .public
  delegationLineageId := 13
  delegationLineageDigest := "d"
  executionTier := .offlineEvaluation

/-- An execution of the plan. -/
def context : EvaluationExecutionContext :=
  { plan with
    evaluationExecutionId := 20
    actorId := 21
    authorizationRevision := 1
    createdAt := 100 }

/-- The record of the execution when it is planned. -/
def fresh : EvaluationExecutionRecord where
  evaluationExecutionId := 20
  evaluationPlanId := 1
  evaluationRunRequestId := 2
  classification := .public
  initialState := .planned
  currentState := .planned
  executionContext := context
  createdAt := 100
  updatedAt := 100
  internallyConsistent := by decide

/-- What one transition is authorized by. -/
def binding (fromState toState : EvaluationExecutionState) :
    EvaluationExecutionAuthorizationBinding :=
  { context with
    authorizationDecisionId := 30
    authorizationAccessRequestId := 31
    purpose := .executionStateGovernance
    resourceEvaluationPlanId := 1
    action := .stateTransition
    authorizedFromState := fromState
    authorizedToState := toState
    capability := .offlineStateTransition }

/-- The decision on both transitions. -/
def decision : EvaluationDataAccessDecision := ⟨30, 31, .allow⟩

/-- The plan is validated. -/
def validation : EvaluationExecutionTransition where
  transitionId := 40
  evaluationExecutionId := 20
  evaluationPlanId := 1
  fromState := .planned
  toState := .validated
  sequenceNumber := 1
  transitionedAt := 110
  authorizationBinding := binding .planned .validated
  validated := by decide

/-- The execution is cancelled. -/
def cancellation : EvaluationExecutionTransition where
  transitionId := 41
  evaluationExecutionId := 20
  evaluationPlanId := 1
  fromState := .validated
  toState := .cancelled
  sequenceNumber := 2
  transitionedAt := 120
  authorizationBinding := binding .validated .cancelled
  cancellationReference := some "c"
  validated := by decide

/-- Both transitions with the decision on them. -/
def given : List (EvaluationExecutionTransition × EvaluationDataAccessDecision) :=
  [(validation, decision), (cancellation, decision)]

theorem given_applied : (applyEach plan fresh given).toOption.isSome := by decide

end ExecutionSample

/-- A run that is cancelled agrees with its check. -/
theorem historyAgrees_of_cancelled :
    HistoryAgrees ExecutionSample.plan ExecutionSample.fresh ExecutionSample.given
      (givenValue _ ExecutionSample.given_applied) :=
  historyAgrees_of_applyEach rfl (eq_ok_givenValue ExecutionSample.given_applied)

end PolicyOS.Evaluation
