import PolicyOS.Foundation.Replay
import PolicyOS.Foundation.Transition
import PolicyOS.Runtime.Authority.Domain
import PolicyOS.Runtime.Planning.Domain
import PolicyOS.Runtime.State.Domain

/-!
# Runtime state validation

The transition relation, and the three places that check it: the request for one
transition, the record built from a request and its decision, and the whole
history of a state record. The history check also keeps the facts of every
idempotency key it has passed.
-/

namespace PolicyOS.Runtime

open Foundation

/-- The states no transition leaves. -/
def terminalStates : List RuntimeExecutionState :=
  [.succeeded, .failed, .cancelled, .timedOut, .compensated, .invalidated]

/-- Every state, in the order of the source. -/
def allStates : List RuntimeExecutionState :=
  [.requested, .admissionPending, .admitted, .planning, .planned, .ready, .running, .succeeded,
    .failed, .partiallyCompleted, .cancelPending, .cancelled, .timedOut, .compensationRequired,
    .compensating, .compensated, .invalidated]

/-- The edges to one state from several others. -/
def edgesTo (toState : RuntimeExecutionState) (fromStates : List RuntimeExecutionState) :
    List (RuntimeExecutionState × RuntimeExecutionState) :=
  fromStates.map fun fromState => (fromState, toState)

/-- Every edge of the state machine. -/
def allowedTransitions : List (RuntimeExecutionState × RuntimeExecutionState) :=
  List.flatten
    [[(.requested, .admissionPending), (.admissionPending, .admitted), (.admitted, .planning),
        (.planning, .planned), (.planned, .ready), (.ready, .running), (.running, .succeeded),
        (.running, .partiallyCompleted), (.partiallyCompleted, .succeeded),
        (.partiallyCompleted, .failed), (.partiallyCompleted, .compensationRequired),
        (.compensationRequired, .compensating), (.compensating, .compensated),
        (.compensating, .failed)],
      edgesTo .failed [.admitted, .planning, .planned, .ready, .running],
      edgesTo .cancelPending
        [.admissionPending, .admitted, .planning, .planned, .ready, .running,
          .partiallyCompleted],
      [(.cancelPending, .cancelled)],
      edgesTo .timedOut [.admissionPending, .planning, .ready, .running],
      edgesTo .invalidated (allStates.filter (· ∉ terminalStates))]

/-- One edge must leave a state that is not terminal, and be allowed. -/
def validateRuntimeStateTransitionEdge (fromState toState : RuntimeExecutionState) :
    Except RuntimeStateError Unit := do
  rejectIf (fromState ∈ terminalStates)
    ⟨.terminal, "terminal runtime state cannot transition"⟩
  rejectIf ((fromState, toState) ∉ allowedTransitions)
    ⟨.transition, "runtime state transition is forbidden"⟩

/-- The scope of a request is the one its authority was granted for. -/
def scopeMatchesAuthority (scope : RuntimeStateScope) (authority : RuntimeAuthorityBundle) :
    Prop :=
  scope.runtimeExecutionRequestId = authority.executionRequest.runtimeExecutionRequestId ∧
  scope.runtimeAuthorityBundleId = authority.runtimeAuthorityBundleId ∧
  scope.runtimeAdmissionDecisionId = authority.admissionDecision.runtimeAdmissionDecisionId ∧
  scope.tenantId = authority.tenantId ∧
  scope.organizationId = authority.organizationId ∧
  scope.rootLineageId = authority.rootLineageId ∧
  scope.rootLineageDigestReference = authority.rootLineageDigestReference ∧
  scope.policyRevision = authority.policyRevision ∧
  scope.authorizationRevision = authority.authorizationRevision ∧
  scope.registryRevision = authority.registryRevision

instance (scope : RuntimeStateScope) (authority : RuntimeAuthorityBundle) :
    Decidable (scopeMatchesAuthority scope authority) :=
  inferInstanceAs (Decidable (_ ∧ _ ∧ _ ∧ _ ∧ _ ∧ _ ∧ _ ∧ _ ∧ _ ∧ _))

/-- The states a plan must be supplied for. -/
def planStates : List RuntimeExecutionState := [.planned, .ready, .running]

/-- The states only a validated plan may be supplied for. -/
def validatedPlanStates : List RuntimeExecutionState := [.ready, .running]

/-- A supplied plan must be the one in scope. -/
def validateTransitionPlan (request : RuntimeStateTransitionRequest) (plan : ExecutionPlan) :
    Except RuntimeStateError Unit := do
  let scope := request.scope
  rejectIf (scope.executionPlanId ≠ some plan.executionPlanId)
    ⟨.scope, "state scope differs from execution plan"⟩
  rejectIf (plan.planStatus ≠ .validated ∧ request.toState ∈ validatedPlanStates)
    ⟨.authority, "ready or running requires validated plan"⟩
  rejectIf ((plan.tenantId, plan.organizationId, plan.rootLineageId) ≠
      (scope.tenantId, scope.organizationId, scope.rootLineageId))
    ⟨.scope, "execution plan crosses state scope"⟩
  rejectIf (¬ notLower scope.classification plan.classification)
    ⟨.classification, "state classification is below plan"⟩

/-- A transition must be requested for the record as it stands, under the admitted
authority and the plan in its scope. -/
def validateRuntimeStateTransitionRequest (request : RuntimeStateTransitionRequest)
    (record : RuntimeExecutionStateRecord) (authority : RuntimeAuthorityBundle)
    (plan : Option ExecutionPlan) : Except RuntimeStateError Unit := do
  rejectIf (request.scope ≠ record.scope)
    ⟨.scope, "transition scope differs from state record"⟩
  rejectIf (request.fromState ≠ record.currentState)
    ⟨.transition, "transition source differs from current state"⟩
  validateRuntimeStateTransitionEdge request.fromState request.toState
  rejectIf (request.expectedRevision ≠ record.currentRevision)
    ⟨.revision, "stale expected runtime-state revision"⟩
  rejectIf (request.requestedAt < record.updatedAt)
    ⟨.timestamp, "transition request predates current state"⟩
  rejectIf (authority.admissionDecision.decisionStatus ≠ .admitted)
    ⟨.authority, "runtime state requires admitted authority"⟩
  rejectIf (¬ scopeMatchesAuthority request.scope authority)
    ⟨.authority, "state scope differs from authority bundle"⟩
  rejectIf (request.authorityDecisionReferenceId ≠ request.scope.runtimeAdmissionDecisionId)
    ⟨.authority, "transition authority decision is not admission"⟩
  rejectIf (∃ permit ∈ request.permitReferenceId,
      permit ∉ authority.permitReferences.map (·.runtimePermitReferenceId))
    ⟨.authority, "transition permit reference is unknown"⟩
  rejectIf (¬ notLower request.scope.classification authority.classification)
    ⟨.classification, "state classification is below authority"⟩
  rejectIf (request.toState ∈ planStates ∧ plan = none)
    ⟨.authority, "transition requires exact execution plan"⟩
  match plan with
  | none => .ok ()
  | some plan => validateTransitionPlan request plan

/-- The decision was made under the scope of the request. -/
def decisionMatchesScope (decision : RuntimeStateTransitionDecision) (scope : RuntimeStateScope) :
    Prop :=
  decision.tenantId = scope.tenantId ∧
  decision.organizationId = scope.organizationId ∧
  decision.classification = scope.classification ∧
  decision.policyRevision = scope.policyRevision ∧
  decision.authorizationRevision = scope.authorizationRevision ∧
  decision.registryRevision = scope.registryRevision

instance (decision : RuntimeStateTransitionDecision) (scope : RuntimeStateScope) :
    Decidable (decisionMatchesScope decision scope) :=
  inferInstanceAs (Decidable (_ ∧ _ ∧ _ ∧ _ ∧ _ ∧ _))

/-- Record the transition an allowed decision makes of its request. -/
def buildRuntimeStateTransitionRecord (recordId : UUID) (request : RuntimeStateTransitionRequest)
    (decision : RuntimeStateTransitionDecision) (transitionedAt : DateTime) :
    Except RuntimeStateError RuntimeStateTransitionRecord := do
  rejectIf (decision.decisionStatus ≠ .allowed)
    ⟨.transition, "denied transition cannot create a record"⟩
  rejectIf (decision.runtimeStateTransitionRequestId ≠ request.runtimeStateTransitionRequestId)
    ⟨.history, "transition decision request mismatch"⟩
  match decision.resultingRevision with
  | none => .error ⟨.revision, "resulting revision must increment exactly once"⟩
  | some resultingRevision => do
    rejectIf (resultingRevision.val ≠ request.expectedRevision.val + 1)
      ⟨.revision, "resulting revision must increment exactly once"⟩
    rejectIf (decision.decidedAt < request.requestedAt ∨ transitionedAt < decision.decidedAt)
      ⟨.timestamp, "transition timestamps are out of order"⟩
    rejectIf (¬ decisionMatchesScope decision request.scope)
      ⟨.scope, "transition decision scope mismatch"⟩
    pure
      { runtimeStateTransitionRecordId := recordId
        transitionRequest := request
        transitionDecision := decision
        fromState := request.fromState
        toState := request.toState
        expectedRevision := request.expectedRevision
        resultingRevision := resultingRevision
        idempotencyKey := request.idempotencyKey
        scope := request.scope
        transitionedAt := transitionedAt }

/-- What an idempotency key was used for. -/
abbrev IdempotencyFacts :=
  RuntimeStateScope × RuntimeExecutionState × RuntimeExecutionState × PositiveRevision

/-- How far a history has been read: the state, revision and time the next
transition must follow, and the keys used so far. -/
structure HistoryProgress where
  expectedState : RuntimeExecutionState
  expectedRevision : Nat
  previousTime : DateTime
  idempotencyFacts : List (BoundedId × IdempotencyFacts)

/-- The facts a request uses its key for. -/
def RuntimeStateTransitionRequest.facts (request : RuntimeStateTransitionRequest) :
    IdempotencyFacts :=
  (request.scope, request.fromState, request.toState, request.expectedRevision)

/-- The recorded facts are those of the request and of the decision. -/
def RuntimeStateTransitionRecord.factsAgree (transition : RuntimeStateTransitionRecord) : Prop :=
  transition.transitionRequest.fromState = transition.fromState ∧
  transition.transitionRequest.toState = transition.toState ∧
  transition.transitionRequest.expectedRevision = transition.expectedRevision ∧
  transition.transitionRequest.idempotencyKey = transition.idempotencyKey ∧
  transition.transitionDecision.resultingRevision = some transition.resultingRevision

instance (transition : RuntimeStateTransitionRecord) : Decidable transition.factsAgree :=
  inferInstanceAs (Decidable (_ ∧ _ ∧ _ ∧ _ ∧ _))

/-- Read one transition of the history of a record. -/
def validateTransition (record : RuntimeExecutionStateRecord) (progress : HistoryProgress)
    (transition : RuntimeStateTransitionRecord) : Except RuntimeStateError HistoryProgress := do
  let request := transition.transitionRequest
  let prior := progress.idempotencyFacts.lookup request.idempotencyKey
  rejectIf (∃ facts ∈ prior, facts ≠ request.facts)
    ⟨.idempotency, "idempotency key reused with different facts"⟩
  rejectIf (prior ≠ none)
    ⟨.history, "duplicate transition record is not append-only"⟩
  rejectIf (transition.scope ≠ record.scope ∨ request.scope ≠ record.scope)
    ⟨.scope, "transition history scope mismatch"⟩
  rejectIf (transition.fromState ≠ progress.expectedState)
    ⟨.history, "transition history state is discontinuous"⟩
  rejectIf (transition.expectedRevision.val ≠ progress.expectedRevision)
    ⟨.revision, "transition history revision is discontinuous"⟩
  rejectIf (transition.resultingRevision.val ≠ progress.expectedRevision + 1)
    ⟨.revision, "transition revision did not increment once"⟩
  rejectIf (transition.transitionedAt < progress.previousTime)
    ⟨.timestamp, "transition history timestamp decreased"⟩
  validateRuntimeStateTransitionEdge transition.fromState transition.toState
  rejectIf (¬ transition.factsAgree)
    ⟨.history, "transition record facts differ from request or decision"⟩
  pure
    { expectedState := transition.toState
      expectedRevision := transition.resultingRevision.val
      previousTime := transition.transitionedAt
      idempotencyFacts := (request.idempotencyKey, request.facts) :: progress.idempotencyFacts }

/-- Before any transition a record is requested, at revision one. -/
def RuntimeExecutionStateRecord.beginning (record : RuntimeExecutionStateRecord) :
    HistoryProgress where
  expectedState := .requested
  expectedRevision := 1
  previousTime := record.createdAt
  idempotencyFacts := []

/-- A state record must be what its history leads to. -/
def validateRuntimeExecutionStateRecord (record : RuntimeExecutionStateRecord) :
    Except RuntimeStateError Unit := do
  let progress ← record.transitions.foldlM (validateTransition record) record.beginning
  rejectIf (record.currentState ≠ progress.expectedState ∨
      record.currentRevision.val ≠ progress.expectedRevision)
    ⟨.history, "current state or revision differs from history"⟩
  rejectIf (record.updatedAt ≠ progress.previousTime)
    ⟨.timestamp, "updated_at differs from transition history"⟩

/-!
# State histories as paths

What an accepted state record says about its history: it is a run of the state
machine from the requested state, with one revision for each transition, times
that never decrease and keys that are never used twice. An accepted request and
the record built from it extend such a history by one transition.
-/

/-- The state machine of a governed execution, labelled by the state entered. -/
def runtimeStateMachine : TransitionSystem RuntimeExecutionState RuntimeExecutionState where
  Initial state := state = .requested
  Step fromState toState next := next = toState ∧ (fromState, toState) ∈ allowedTransitions

theorem not_terminal_of_allowed {fromState toState : RuntimeExecutionState}
    (allowed : (fromState, toState) ∈ allowedTransitions) : fromState ∉ terminalStates := by
  have every : ∀ edge ∈ allowedTransitions, edge.1 ∉ terminalStates := by decide
  exact every _ allowed

/-- An edge is accepted exactly when it is allowed. -/
@[simp] theorem validateRuntimeStateTransitionEdge_eq_ok_iff
    {fromState toState : RuntimeExecutionState} :
    validateRuntimeStateTransitionEdge fromState toState = .ok () ↔
      (fromState, toState) ∈ allowedTransitions := by
  simp only [validateRuntimeStateTransitionEdge, bind_eq_ok_iff, exists_unit_iff,
    rejectIf_eq_ok_iff, not_not]
  exact ⟨And.right, fun allowed => ⟨not_terminal_of_allowed allowed, allowed⟩⟩

/-- The transition is the next one of a history read so far, in the scope of its
record. -/
structure FollowsHistory (scope : RuntimeStateScope) (progress : HistoryProgress)
    (transition : RuntimeStateTransitionRecord) : Prop where
  freshKey : transition.transitionRequest.idempotencyKey ∉ progress.idempotencyFacts.map Prod.fst
  inScope : transition.scope = scope
  requestInScope : transition.transitionRequest.scope = scope
  continues : transition.fromState = progress.expectedState
  expects : transition.expectedRevision.val = progress.expectedRevision
  increments : transition.resultingRevision.val = progress.expectedRevision + 1
  later : progress.previousTime ≤ transition.transitionedAt
  allowed : (transition.fromState, transition.toState) ∈ allowedTransitions
  agrees : transition.factsAgree

/-- The history read so far, with one more transition. -/
def HistoryProgress.after (progress : HistoryProgress)
    (transition : RuntimeStateTransitionRecord) : HistoryProgress where
  expectedState := transition.toState
  expectedRevision := transition.resultingRevision.val
  previousTime := transition.transitionedAt
  idempotencyFacts := (transition.transitionRequest.idempotencyKey,
    transition.transitionRequest.facts) :: progress.idempotencyFacts

theorem lookup_eq_none_iff_not_used {facts : List (BoundedId × IdempotencyFacts)}
    {key : BoundedId} : facts.lookup key = none ↔ key ∉ facts.map Prod.fst := by
  simp only [List.lookup_eq_none_iff, List.mem_map, not_exists, not_and, bne_iff_ne, ne_eq]
  exact ⟨fun unused entry present isKey => unused entry present isKey.symm,
    fun unused entry present isKey => unused entry present isKey.symm⟩

/-- A transition is read exactly when it is the next one. -/
theorem validateTransition_eq_ok_iff {record : RuntimeExecutionStateRecord}
    {progress next : HistoryProgress} {transition : RuntimeStateTransitionRecord} :
    validateTransition record progress transition = .ok next ↔
      FollowsHistory record.scope progress transition ∧ progress.after transition = next := by
  simp only [validateTransition, bind_eq_ok_iff, exists_unit_iff, rejectIf_eq_ok_iff, not_not,
    not_or, not_lt, pure_eq_ok_iff, validateRuntimeStateTransitionEdge_eq_ok_iff, ne_eq,
    lookup_eq_none_iff_not_used]
  constructor
  · rintro ⟨_, fresh, ⟨scope, requestScope⟩, continues, expects, increments, later, allowed,
      agrees, rfl⟩
    exact ⟨⟨fresh, scope, requestScope, continues, expects, increments, later, allowed, agrees⟩,
      rfl⟩
  · rintro ⟨follows, rfl⟩
    refine ⟨?_, follows.freshKey, ⟨follows.inScope, follows.requestInScope⟩, follows.continues,
      follows.expects, follows.increments, follows.later, follows.allowed, follows.agrees, rfl⟩
    rw [lookup_eq_none_iff_not_used.mpr follows.freshKey]
    simp

/-- The record is what its history leads to. -/
structure HistoryAccepted (record : RuntimeExecutionStateRecord) : Prop where
  replayed : Replayed (FollowsHistory record.scope) HistoryProgress.after record.beginning
    record.transitions
  state : record.currentState =
    (record.transitions.foldl HistoryProgress.after record.beginning).expectedState
  revision : record.currentRevision.val =
    (record.transitions.foldl HistoryProgress.after record.beginning).expectedRevision
  time : record.updatedAt =
    (record.transitions.foldl HistoryProgress.after record.beginning).previousTime

theorem validateRuntimeExecutionStateRecord_eq_ok_iff {record : RuntimeExecutionStateRecord} :
    validateRuntimeExecutionStateRecord record = .ok () ↔ HistoryAccepted record := by
  simp only [validateRuntimeExecutionStateRecord, bind_eq_ok_iff, exists_unit_iff,
    rejectIf_eq_ok_iff, not_not, not_or, ne_eq,
    Replayed.foldlM_eq_ok_iff validateTransition_eq_ok_iff]
  constructor
  · rintro ⟨_, ⟨replayed, rfl⟩, ⟨state, revision⟩, time⟩
    exact ⟨replayed, state, revision, time⟩
  · intro accepted
    exact ⟨_, ⟨accepted.replayed, rfl⟩, ⟨accepted.state, accepted.revision⟩, accepted.time⟩

/-- The transitions read so far are a run of the state machine to the state that is
expected next. -/
structure ReadSoFar (createdAt : DateTime) (transitions : List RuntimeStateTransitionRecord)
    (progress : HistoryProgress) : Prop where
  steps : runtimeStateMachine.Steps .requested (transitions.map (·.toState))
    progress.expectedState
  departures : transitions.map (·.fromState) ++ [progress.expectedState] =
    .requested :: transitions.map (·.toState)
  allowed : ∀ transition ∈ transitions,
    (transition.fromState, transition.toState) ∈ allowedTransitions
  revision : progress.expectedRevision = transitions.length + 1
  revisions : transitions.map (·.resultingRevision.val) = List.range' 2 transitions.length
  ordered : (createdAt :: transitions.map (·.transitionedAt)).Pairwise (· ≤ ·)
  latest : (createdAt :: transitions.map (·.transitionedAt)).getLast? = some progress.previousTime
  used : progress.idempotencyFacts.map Prod.fst =
    (transitions.map (·.transitionRequest.idempotencyKey)).reverse
  unique : (transitions.map (·.transitionRequest.idempotencyKey)).Nodup

/-- Nothing read is the empty run. -/
theorem ReadSoFar.nil (record : RuntimeExecutionStateRecord) :
    ReadSoFar record.createdAt [] record.beginning where
  steps := .refl
  departures := rfl
  allowed := fun _ present => absurd present List.not_mem_nil
  revision := rfl
  revisions := rfl
  ordered := List.pairwise_singleton _ _
  latest := rfl
  used := rfl
  unique := List.nodup_nil

theorem le_last_of_ordered {times : List DateTime} {last time : DateTime}
    (ordered : times.Pairwise (· ≤ ·)) (isLast : times.getLast? = some last)
    (present : time ∈ times) : time ≤ last := by
  obtain ⟨earlier, rfl⟩ := List.getLast?_eq_some_iff.mp isLast
  rcases List.mem_append.mp present with early | isSame
  · exact (List.pairwise_append.mp ordered).2.2 time early last (List.mem_singleton_self last)
  · exact (List.mem_singleton.mp isSame).le

/-- Reading the next transition takes one step of the state machine. -/
theorem ReadSoFar.snoc {record : RuntimeExecutionStateRecord}
    {transitions : List RuntimeStateTransitionRecord} {progress : HistoryProgress}
    {transition : RuntimeStateTransitionRecord}
    (read : ReadSoFar record.createdAt transitions progress)
    (follows : FollowsHistory record.scope progress transition) :
    ReadSoFar record.createdAt (transitions ++ [transition]) (progress.after transition) where
  steps := by
    rw [List.map_append]
    exact .step read.steps ⟨rfl, follows.continues ▸ follows.allowed⟩
  departures := by
    rw [List.map_append, List.map_append, ← List.cons_append, ← read.departures,
      List.map_singleton, List.map_singleton, follows.continues]
    rfl
  allowed := by
    intro earlier present
    rcases List.mem_append.mp present with early | isLast
    · exact read.allowed earlier early
    · exact List.mem_singleton.mp isLast ▸ follows.allowed
  revision := by
    rw [List.length_append, List.length_singleton, ← read.revision]
    exact follows.increments
  revisions := by
    rw [List.map_append, List.length_append, List.length_singleton, read.revisions,
      List.range'_concat, List.map_singleton, follows.increments, read.revision]
    congr 2
    omega
  ordered := by
    rw [List.map_append, ← List.cons_append, List.pairwise_append]
    refine ⟨read.ordered, List.pairwise_singleton _ _, ?_⟩
    intro earlier isEarlier last isLast
    obtain rfl := List.mem_singleton.mp isLast
    exact (le_last_of_ordered read.ordered read.latest isEarlier).trans follows.later
  latest := by
    rw [List.map_append, ← List.cons_append, List.map_singleton, List.getLast?_concat]
    rfl
  used := by
    rw [List.map_append, List.map_singleton, List.reverse_append, ← read.used]
    rfl
  unique := by
    rw [List.map_append, List.map_singleton, List.nodup_append]
    refine ⟨read.unique, List.nodup_singleton _, ?_⟩
    intro earlier isEarlier last isLast same
    obtain rfl := List.mem_singleton.mp isLast
    refine follows.freshKey ?_
    rw [read.used, List.mem_reverse, ← same]
    exact isEarlier

theorem HistoryAccepted.read {record : RuntimeExecutionStateRecord}
    (accepted : HistoryAccepted record) :
    ReadSoFar record.createdAt record.transitions
      (record.transitions.foldl HistoryProgress.after record.beginning) :=
  Replayed.holds_throughout (ReadSoFar.nil record) (fun read follows => read.snoc follows)
    accepted.replayed

/-- A record whose history is a path of the state machine from the requested state to
its own, one revision at a time. -/
structure StatePath (record : RuntimeExecutionStateRecord) : Prop where
  starts : record.initialState = .requested
  steps : runtimeStateMachine.Steps record.initialState (record.transitions.map (·.toState))
    record.currentState
  departures : record.transitions.map (·.fromState) ++ [record.currentState] =
    record.initialState :: record.transitions.map (·.toState)
  allowed : ∀ transition ∈ record.transitions,
    (transition.fromState, transition.toState) ∈ allowedTransitions
  notTerminal : ∀ transition ∈ record.transitions, transition.fromState ∉ terminalStates
  revision : record.currentRevision.val = record.transitions.length + 1
  revisions : record.transitions.map (·.resultingRevision.val) =
    List.range' 2 record.transitions.length
  ordered : (record.createdAt :: record.transitions.map (·.transitionedAt)).Pairwise (· ≤ ·)
  latest : (record.createdAt :: record.transitions.map (·.transitionedAt)).getLast? =
    some record.updatedAt
  unique : (record.transitions.map (·.transitionRequest.idempotencyKey)).Nodup

/-- The history of an accepted record is a path. -/
theorem HistoryAccepted.path {record : RuntimeExecutionStateRecord}
    (accepted : HistoryAccepted record) : StatePath record where
  starts := record.beginsRequested
  steps := by
    rw [record.beginsRequested, accepted.state]
    exact accepted.read.steps
  departures := by
    rw [record.beginsRequested, accepted.state]
    exact accepted.read.departures
  allowed := accepted.read.allowed
  notTerminal transition present := not_terminal_of_allowed (accepted.read.allowed _ present)
  revision := accepted.revision.trans accepted.read.revision
  revisions := accepted.read.revisions
  ordered := accepted.read.ordered
  latest := by
    rw [accepted.time]
    exact accepted.read.latest
  unique := accepted.read.unique

/-- The request is for a transition of the record as it stands. -/
structure RequestsTransition (request : RuntimeStateTransitionRequest)
    (record : RuntimeExecutionStateRecord) : Prop where
  scope : request.scope = record.scope
  fromState : request.fromState = record.currentState
  allowed : (request.fromState, request.toState) ∈ allowedTransitions
  expectedRevision : request.expectedRevision = record.currentRevision
  later : record.updatedAt ≤ request.requestedAt

theorem RequestsTransition.of_validate {request : RuntimeStateTransitionRequest}
    {record : RuntimeExecutionStateRecord} {authority : RuntimeAuthorityBundle}
    {plan : Option ExecutionPlan}
    (accepted : validateRuntimeStateTransitionRequest request record authority plan = .ok ()) :
    RequestsTransition request record := by
  simp only [validateRuntimeStateTransitionRequest, bind_eq_ok_iff, exists_unit_iff,
    rejectIf_eq_ok_iff, not_not, not_lt, ne_eq,
    validateRuntimeStateTransitionEdge_eq_ok_iff] at accepted
  obtain ⟨scope, fromState, allowed, expectedRevision, later, _⟩ := accepted
  exact ⟨scope, fromState, allowed, expectedRevision, later⟩

/-- The record is the transition the decision makes of the request. -/
structure BuiltFrom (request : RuntimeStateTransitionRequest)
    (decision : RuntimeStateTransitionDecision) (transitionedAt : DateTime)
    (transition : RuntimeStateTransitionRecord) : Prop where
  ofRequest : transition.transitionRequest = request
  ofDecision : transition.transitionDecision = decision
  fromState : transition.fromState = request.fromState
  toState : transition.toState = request.toState
  expectedRevision : transition.expectedRevision = request.expectedRevision
  resultingRevision : decision.resultingRevision = some transition.resultingRevision
  increments : transition.resultingRevision.val = request.expectedRevision.val + 1
  idempotencyKey : transition.idempotencyKey = request.idempotencyKey
  scope : transition.scope = request.scope
  atTime : transition.transitionedAt = transitionedAt
  later : request.requestedAt ≤ transitionedAt

/-- A built record is the transition the decision makes of the request. -/
theorem BuiltFrom.of_build {recordId : UUID} {request : RuntimeStateTransitionRequest}
    {decision : RuntimeStateTransitionDecision} {transitionedAt : DateTime}
    {transition : RuntimeStateTransitionRecord}
    (built : buildRuntimeStateTransitionRecord recordId request decision transitionedAt =
      .ok transition) : BuiltFrom request decision transitionedAt transition := by
  simp only [buildRuntimeStateTransitionRecord, bind_eq_ok_iff, exists_unit_iff,
    rejectIf_eq_ok_iff, not_not, ne_eq] at built
  obtain ⟨_, _, built⟩ := built
  cases resulting : decision.resultingRevision with
  | none =>
      rw [resulting] at built
      cases built
  | some resultingRevision =>
      rw [resulting] at built
      simp only [bind_eq_ok_iff, exists_unit_iff, rejectIf_eq_ok_iff, not_not, not_or, not_lt,
        pure_eq_ok_iff] at built
      obtain ⟨increments, ⟨decided, transitioned⟩, _, rfl⟩ := built
      exact ⟨rfl, rfl, rfl, rfl, rfl, resulting, increments, rfl, rfl, rfl,
        decided.trans transitioned⟩

variable {record : RuntimeExecutionStateRecord} {request : RuntimeStateTransitionRequest}
  {decision : RuntimeStateTransitionDecision} {transitionedAt : DateTime}
  {transition : RuntimeStateTransitionRecord}

theorem RequestsTransition.transitioned (requests : RequestsTransition request record)
    (built : BuiltFrom request decision transitionedAt transition) :
    record.updatedAt ≤ transition.transitionedAt :=
  built.atTime ▸ requests.later.trans built.later

/-- An accepted request whose key is fresh gives the next transition of the history. -/
theorem HistoryAccepted.follows (accepted : HistoryAccepted record)
    (requests : RequestsTransition request record)
    (fresh : request.idempotencyKey ∉
      record.transitions.map (·.transitionRequest.idempotencyKey))
    (built : BuiltFrom request decision transitionedAt transition) :
    FollowsHistory record.scope
      (record.transitions.foldl HistoryProgress.after record.beginning) transition where
  freshKey := by
    rw [accepted.read.used, List.mem_reverse, built.ofRequest]
    exact fresh
  inScope := built.scope.trans requests.scope
  requestInScope := built.ofRequest ▸ requests.scope
  continues := by rw [built.fromState, requests.fromState, accepted.state]
  expects := by rw [built.expectedRevision, requests.expectedRevision, accepted.revision]
  increments := by rw [built.increments, requests.expectedRevision, accepted.revision]
  later := accepted.time ▸ requests.transitioned built
  allowed := by
    rw [built.fromState, built.toState]
    exact requests.allowed
  agrees := by
    refine ⟨?_, ?_, ?_, ?_, ?_⟩
    · rw [built.ofRequest, built.fromState]
    · rw [built.ofRequest, built.toState]
    · rw [built.ofRequest, built.expectedRevision]
    · rw [built.ofRequest, built.idempotencyKey]
    · rw [built.ofDecision, built.resultingRevision]

theorem HistoryAccepted.appended (accepted : HistoryAccepted record)
    (follows : FollowsHistory record.scope
      (record.transitions.foldl HistoryProgress.after record.beginning) transition)
    (later : record.updatedAt ≤ transition.transitionedAt) :
    HistoryAccepted (record.appended transition later) := by
  have ends : (record.appended transition later).transitions.foldl HistoryProgress.after
      (record.appended transition later).beginning =
        (record.transitions.foldl HistoryProgress.after record.beginning).after transition :=
    List.foldl_append
  refine ⟨Replayed.snoc_iff.mpr ⟨accepted.replayed, follows⟩, ?_, ?_, ?_⟩ <;> rw [ends] <;> rfl

end PolicyOS.Runtime
