import PolicyOS.Runtime.Orchestration.Validation

/-!
# Committed state transitions

A commit is accepted only where its state record is the invocation's record with
one more transition: a transition requested of that record, built from an allowed
decision, under a key the record has not used. With it the three validators and
the builder agree: a state record only ever grows along the state machine.
-/

namespace PolicyOS.Runtime

open Foundation

/-- A transition that extends a record: requested of it under an authority and a plan,
built from the decision on the request, with a key the record has not used. -/
structure ExtendsRecord (record : RuntimeExecutionStateRecord)
    (authority : RuntimeAuthorityBundle) (plan : Option ExecutionPlan)
    (transition : RuntimeStateTransitionRecord) : Prop where
  requested : validateRuntimeStateTransitionRequest transition.transitionRequest record authority
    plan = .ok ()
  built : buildRuntimeStateTransitionRecord transition.runtimeStateTransitionRecordId
    transition.transitionRequest transition.transitionDecision transition.transitionedAt =
      .ok transition
  fresh : transition.transitionRequest.idempotencyKey ∉
    record.transitions.map (·.transitionRequest.idempotencyKey)

/-- What a state append is accepted for. -/
theorem validateStateAppend_eq_ok {previous current : RuntimeExecutionStateRecord}
    {invocation : RuntimeOrchestrationInvocationRequest}
    (accepted : validateStateAppend previous current invocation = .ok ()) :
    ((current.runtimeExecutionStateRecordId, current.contractVersion, current.scope,
        current.initialState, current.createdAt) =
      (previous.runtimeExecutionStateRecordId, previous.contractVersion, previous.scope,
        previous.initialState, previous.createdAt)) ∧
    ∃ transition, current.transitions = previous.transitions ++ [transition] ∧
      validateRuntimeStateTransitionRequest transition.transitionRequest previous
        invocation.authority (some invocation.plan) = .ok () ∧
      buildRuntimeStateTransitionRecord transition.runtimeStateTransitionRecordId
        transition.transitionRequest transition.transitionDecision transition.transitionedAt =
          .ok transition := by
  simp only [validateStateAppend, bind_eq_ok_iff, exists_unit_iff, rejectIf_eq_ok_iff, not_or,
    not_not, ne_eq, Prod.mk.injEq] at accepted
  obtain ⟨⟨⟨sameId, sameContract, sameScope, sameInitial, sameCreation, front⟩, _⟩, accepted⟩ :=
    accepted
  refine ⟨by simp only [sameId, sameContract, sameScope, sameInitial, sameCreation], ?_⟩
  cases ends : current.transitions.getLast? with
  | none =>
      rw [ends] at accepted
      cases accepted
  | some transition =>
      rw [ends] at accepted
      simp only [bind_eq_ok_iff, exists_unit_iff, rejectIf_eq_ok_iff, not_not,
        raisingInstead_eq_ok_iff] at accepted
      obtain ⟨rebuilt, ⟨requested, built⟩, rfl⟩ := accepted
      refine ⟨rebuilt, ?_, requested, built⟩
      obtain ⟨earlier, isCurrent⟩ := List.getLast?_eq_some_iff.mp ends
      rw [isCurrent, List.dropLast_concat] at front
      rw [isCurrent, front]

/-- An accepted record whose history is that of another with one more transition is
that other record with the transition appended. -/
theorem HistoryAccepted.eq_appended {previous current : RuntimeExecutionStateRecord}
    {transition : RuntimeStateTransitionRecord} (accepted : HistoryAccepted current)
    (same : (current.runtimeExecutionStateRecordId, current.contractVersion, current.scope,
        current.initialState, current.createdAt) =
      (previous.runtimeExecutionStateRecordId, previous.contractVersion, previous.scope,
        previous.initialState, previous.createdAt))
    (extended : current.transitions = previous.transitions ++ [transition])
    (later : previous.updatedAt ≤ transition.transitionedAt) :
    current = previous.appended transition later := by
  obtain ⟨_, state, revision, time⟩ := accepted
  rw [extended, List.foldl_append] at state revision time
  cases current with
  | mk id contract scope initial currentState currentRevision transitions createdAt updatedAt =>
      simp only [Prod.mk.injEq] at same
      obtain ⟨rfl, rfl, rfl, rfl, rfl⟩ := same
      obtain rfl : currentState = transition.toState := state
      obtain rfl : updatedAt = transition.transitionedAt := time
      obtain rfl : transitions = previous.transitions ++ [transition] := extended
      obtain rfl : currentRevision = transition.resultingRevision := Subtype.ext revision
      rfl

theorem HistoryAccepted.fresh_key {record : RuntimeExecutionStateRecord}
    {earlier : List RuntimeStateTransitionRecord} {transition : RuntimeStateTransitionRecord}
    (accepted : HistoryAccepted record) (extended : record.transitions = earlier ++ [transition]) :
    transition.transitionRequest.idempotencyKey ∉
      earlier.map (·.transitionRequest.idempotencyKey) := by
  have unique := accepted.path.unique
  rw [extended, List.map_append, List.map_singleton, List.nodup_append] at unique
  exact fun used => unique.2.2 _ used _ (List.mem_singleton_self _) rfl

/-- What an accepted commit does to the state record of its invocation. -/
theorem extends_of_commit {request : RuntimeOrchestrationCommitRequest}
    (accepted : validateRuntimeOrchestrationCommitRequest request = .ok ()) :
    ∃ transition later,
      ExtendsRecord request.invocationOutcome.invocationRequest.state
        request.invocationOutcome.invocationRequest.authority
        (some request.invocationOutcome.invocationRequest.plan) transition ∧
      request.writeSet.stateRecord =
        request.invocationOutcome.invocationRequest.state.appended transition later ∧
      HistoryAccepted request.writeSet.stateRecord := by
  simp only [validateRuntimeOrchestrationCommitRequest, bind_eq_ok_iff, exists_unit_iff,
    raisingInstead_eq_ok_iff, validateRuntimeExecutionStateRecord_eq_ok_iff] at accepted
  obtain ⟨_, _, history, _, _, append, _⟩ := accepted
  obtain ⟨same, transition, extended, requested, built⟩ := validateStateAppend_eq_ok append
  have later := (RequestsTransition.of_validate requested).transitioned (.of_build built)
  exact ⟨transition, later, ⟨requested, built, history.fresh_key extended⟩,
    history.eq_appended same extended later, history⟩

/-- State records only grow along the state machine: an accepted request under a fresh
key gives a record that is accepted again and whose history has the old one as a
strict prefix; every accepted record is a path from the requested state; and a commit
is accepted only where it extends the record by such a transition. -/
theorem stateRecords_grow :
    (∀ (record : RuntimeExecutionStateRecord) (request : RuntimeStateTransitionRequest)
        (authority : RuntimeAuthorityBundle) (plan : Option ExecutionPlan)
        (decision : RuntimeStateTransitionDecision) (recordId : UUID) (transitionedAt : DateTime)
        (transition : RuntimeStateTransitionRecord),
      validateRuntimeExecutionStateRecord record = .ok () →
      validateRuntimeStateTransitionRequest request record authority plan = .ok () →
      request.idempotencyKey ∉ record.transitions.map (·.transitionRequest.idempotencyKey) →
      buildRuntimeStateTransitionRecord recordId request decision transitionedAt =
        .ok transition →
      ∃ later : record.updatedAt ≤ transition.transitionedAt,
        validateRuntimeExecutionStateRecord (record.appended transition later) = .ok () ∧
        record.transitions <+: (record.appended transition later).transitions ∧
        record.transitions ≠ (record.appended transition later).transitions) ∧
    (∀ record : RuntimeExecutionStateRecord,
      validateRuntimeExecutionStateRecord record = .ok () → StatePath record) ∧
    (∀ request : RuntimeOrchestrationCommitRequest,
      validateRuntimeOrchestrationCommitRequest request = .ok () →
      ∃ transition later,
        ExtendsRecord request.invocationOutcome.invocationRequest.state
          request.invocationOutcome.invocationRequest.authority
          (some request.invocationOutcome.invocationRequest.plan) transition ∧
        request.writeSet.stateRecord =
          request.invocationOutcome.invocationRequest.state.appended transition later ∧
        validateRuntimeExecutionStateRecord request.writeSet.stateRecord = .ok ()) := by
  refine ⟨?_, ?_, ?_⟩
  · intro record request authority plan decision recordId transitionedAt transition accepted
      requested fresh built
    have history := validateRuntimeExecutionStateRecord_eq_ok_iff.mp accepted
    have requests := RequestsTransition.of_validate requested
    have isBuilt := BuiltFrom.of_build built
    have later := requests.transitioned isBuilt
    refine ⟨later, ?_, List.prefix_append _ _, ?_⟩
    · exact validateRuntimeExecutionStateRecord_eq_ok_iff.mpr
        (history.appended (history.follows requests fresh isBuilt) later)
    · exact fun same => List.cons_ne_nil _ _ (List.self_eq_append_right.mp same)
  · intro record accepted
    exact (validateRuntimeExecutionStateRecord_eq_ok_iff.mp accepted).path
  · intro request accepted
    obtain ⟨transition, later, extends_, appended, history⟩ := extends_of_commit accepted
    exact ⟨transition, later, extends_, appended,
      validateRuntimeExecutionStateRecord_eq_ok_iff.mpr history⟩

namespace CommittedTransition

/-- The first revision. -/
def one : PositiveInt := .nearest 1

/-- The state contract. -/
def stateContract : RuntimeStateContractVersion := ⟨"1", "1", "1"⟩

/-- The scope of the execution. -/
def stateScope : RuntimeStateScope where
  runtimeExecutionRequestId := 1
  runtimeAuthorityBundleId := 2
  runtimeAdmissionDecisionId := 3
  executionPlanId := some 4
  attemptId := 5
  tenantId := 6
  organizationId := 7
  classification := .internal
  rootLineageId := 8
  rootLineageDigestReference := "lineage"
  policyRevision := one
  registryRevision := some one

/-- A request to enter an ordinary state at a time, which is also its revision. -/
def transitionRequest (revision : PositiveInt) (fromState toState : RuntimeExecutionState)
    (ordinary : toState ∉ .failed :: exceptionalStates) : RuntimeStateTransitionRequest where
  runtimeStateTransitionRequestId := 100 + revision.val
  contractVersion := stateContract
  scope := stateScope
  fromState := fromState
  toState := toState
  expectedRevision := revision
  idempotencyKey := toString revision.val
  actorId := 9
  authorityDecisionReferenceId := 3
  requestedAt := revision.val
  errorOnlyOnFailure :=
    ⟨fun failed => absurd (failed ▸ List.mem_cons_self ..) ordinary, fun given => absurd rfl given⟩
  reasonOnException := fun exceptional => absurd (List.mem_cons_of_mem _ exceptional) ordinary

/-- The decision that allows the request. -/
def transitionDecision (revision next : PositiveInt) : RuntimeStateTransitionDecision where
  runtimeStateTransitionDecisionId := 200 + revision.val
  runtimeStateTransitionRequestId := 100 + revision.val
  decisionStatus := .allowed
  decisionReasonReference := "allowed"
  resultingRevision := some next
  actorId := 9
  tenantId := 6
  organizationId := 7
  classification := .internal
  policyRevision := one
  registryRevision := some one
  decidedAt := revision.val
  allowedRevision := iff_of_true rfl (Option.some_ne_none next)

/-- The transition built from the two. -/
def transition (revision next : PositiveInt) (fromState toState : RuntimeExecutionState)
    (ordinary : toState ∉ .failed :: exceptionalStates) : RuntimeStateTransitionRecord where
  runtimeStateTransitionRecordId := 300 + revision.val
  transitionRequest := transitionRequest revision fromState toState ordinary
  transitionDecision := transitionDecision revision next
  fromState := fromState
  toState := toState
  expectedRevision := revision
  resultingRevision := next
  idempotencyKey := toString revision.val
  scope := stateScope
  transitionedAt := revision.val

/-- The way of the execution to the running state. -/
def transitionsToRunning : List RuntimeStateTransitionRecord :=
  [transition one (.nearest 2) .requested .admissionPending (by decide),
    transition (.nearest 2) (.nearest 3) .admissionPending .admitted (by decide),
    transition (.nearest 3) (.nearest 4) .admitted .planning (by decide),
    transition (.nearest 4) (.nearest 5) .planning .planned (by decide),
    transition (.nearest 5) (.nearest 6) .planned .ready (by decide),
    transition (.nearest 6) (.nearest 7) .ready .running (by decide)]

/-- The last transition, after the adapter has succeeded. -/
def succeeding : RuntimeStateTransitionRecord :=
  transition (.nearest 7) (.nearest 8) .running .succeeded (by decide)

/-- The record of the running execution. -/
def runningState : RuntimeExecutionStateRecord where
  runtimeExecutionStateRecordId := 10
  contractVersion := stateContract
  scope := stateScope
  initialState := .requested
  currentState := .running
  currentRevision := .nearest 7
  transitions := transitionsToRunning
  createdAt := 0
  updatedAt := 6

/-- The record of the succeeded execution. -/
def succeededState : RuntimeExecutionStateRecord :=
  runningState.appended succeeding (by decide)

/-- The authority of the execution. -/
def authority : RuntimeAuthorityBundle where
  runtimeAuthorityBundleId := 2
  executionRequest :=
    { runtimeExecutionRequestId := 1
      requesterActorId := 9
      tenantId := 6
      organizationId := 7
      classification := .internal
      policyRevision := one
      registryRevision := some one
      lineageId := 8
      lineageDigestReference := "lineage" }
  admissionDecision :=
    { runtimeAdmissionDecisionId := 3
      decisionStatus := .admitted
      permitReferenceIds := [11] }
  tenantId := 6
  organizationId := 7
  classification := .internal
  policyRevision := one
  registryRevision := some one
  rootLineageId := 8
  rootLineageDigestReference := "lineage"

/-- The plan of the execution. -/
def plan : ExecutionPlan where
  executionPlanId := 4
  planStatus := .validated
  runtimeExecutionRequestId := 1
  steps := [⟨12⟩]
  validationRecords := [⟨13, .valid⟩]
  actorId := 9
  tenantId := 6
  organizationId := 7
  classification := .internal
  rootLineageId := 8
  rootLineageDigestReference := "lineage"
  policyRevision := one
  registryRevision := some one

/-- The registry the action was resolved in. -/
def snapshot : RuntimeActionRegistrySnapshot where
  runtimeRegistrySnapshotId := 14
  registryRevision := one
  entries := [⟨15, ⟨⟨"notify", "notify", "1"⟩⟩, .active⟩]
  tenantId := 6
  organizationId := 7
  rootLineageId := 8
  rootLineageDigestReference := "lineage"
  snapshotDigestReference := "snapshot"

/-- The exact reference to it. -/
def snapshotReference : RuntimeRegistrySnapshotReference :=
  ⟨14, one, "snapshot", 6, 7, .internal⟩

/-- The scope of the audit trail. -/
def auditScope : RuntimeAuditScope where
  runtimeExecutionRequestId := 1
  actorId := 9
  tenantId := 6
  organizationId := 7
  classification := .internal
  rootLineageId := 8
  rootLineageDigestReference := "lineage"
  policyRevision := one
  registryRevision := some one

/-- The event that records the request. -/
def requestedEvent : RuntimeAuditEvent where
  runtimeAuditEventId := 16
  contractVersion := ⟨"1", "1", "1"⟩
  category := .executionRequested
  sequence := one
  eventDigestReference := "first"
  scope := auditScope
  occurredAt := 0

theorem orderedGroups_permit :
    canonical [] ∧ canonical [] ∧ canonical [] ∧ canonical [11] := by decide

/-- The event that records the success. -/
def succeededEvent : RuntimeAuditEvent where
  runtimeAuditEventId := 17
  contractVersion := ⟨"1", "1", "1"⟩
  category := .actionSucceeded
  sequence := .nearest 2
  previousEventId := some 16
  previousEventDigestReference := some "first"
  eventDigestReference := "second"
  scope := auditScope
  authority :=
    { runtimeAuthorityBundleId := some 2
      runtimeAdmissionDecisionId := some 3
      permitReferenceIds := [11]
      orderedGroups := orderedGroups_permit }
  execution :=
    { executionPlanId := some 4
      executionPlanStepId := some 12
      runtimeExecutionStateRecordId := some 10
      runtimeStateTransitionRecordId := some 307
      attemptId := some 5
      stateRevision := some (.nearest 8) }
  action :=
    { runtimeRegistrySnapshotId := some 14
      registryRevision := some one
      runtimeActionResolutionDecisionId := some 18
      runtimeRegistrySnapshotEntryId := some 15
      actionDefinitionId := some "notify"
      actionVersion := some "1"
      action := some "notify"
      idempotencyKey := some "key" }
  outcome := { resultReference := some "result" }
  occurredAt := 7

/-- The trail before the commit. -/
def auditTrail : RuntimeAuditTrail where
  runtimeAuditTrailId := 19
  contractVersion := ⟨"1", "1", "1"⟩
  trailRevision := one
  scope := auditScope
  events := [requestedEvent]
  trailDigestReference := "trail-first"
  createdAt := 0
  updatedAt := 0

/-- The trail the commit stores. -/
def appendedTrail : RuntimeAuditTrail where
  runtimeAuditTrailId := 19
  contractVersion := ⟨"1", "1", "1"⟩
  trailRevision := .nearest 2
  scope := auditScope
  events := [requestedEvent, succeededEvent]
  trailDigestReference := "trail-second"
  createdAt := 0
  updatedAt := 7

/-- The scope of the call, at one state revision. -/
def portScope (stateRevision : PositiveInt) : RuntimePortScope where
  runtimeExecutionRequestId := 1
  runtimeAuthorityBundleId := 2
  runtimeAdmissionDecisionId := 3
  executionPlanId := 4
  executionPlanStepId := 12
  attemptId := 5
  actorId := 9
  tenantId := 6
  organizationId := 7
  classification := .internal
  rootLineageId := 8
  rootLineageDigestReference := "lineage"
  policyRevision := one
  registryRevision := one
  stateRevision := stateRevision

/-- The call of the adapter. -/
def envelope : RuntimeAdapterInvocationEnvelope where
  runtimeAdapterInvocationId := 20
  contractVersion := ⟨"1", "1", "1"⟩
  adapterReference := "adapter"
  adapterContractVersion := "1"
  actionDefinitionId := "notify"
  action := "notify"
  actionVersion := "1"
  permitReferenceIds := [11]
  inputSchemaReference := "schema"
  inputReference := "input"
  inputDigestReference := "digest"
  idempotencyKey := "key"
  requiredState := .running
  scope := portScope (.nearest 7)
  requestedAt := 6
  deadline := 100

/-- The answer of the adapter. -/
def result : RuntimeAdapterInvocationResult where
  runtimeAdapterInvocationResultId := 21
  runtimeAdapterInvocationId := 20
  contractVersion := ⟨"1", "1", "1"⟩
  status := .succeeded
  adapterReference := "adapter"
  adapterContractVersion := "1"
  actionDefinitionId := "notify"
  action := "notify"
  actionVersion := "1"
  attemptId := 5
  tenantId := 6
  organizationId := 7
  classification := .internal
  resultReference := some "result"
  resultDigestReference := some "digest"
  startedAt := 6
  completedAt := 7

/-- The facts committed together. -/
def writeSet : RuntimeAtomicWriteSet where
  runtimeTransactionId := 22
  contractVersion := ⟨"1", "1", "1"⟩
  stateRecord := succeededState
  auditTrail := appendedTrail
  idempotencyReservation :=
    { runtimeIdempotencyReservationId := 23
      idempotencyKey := "key"
      scope := portScope (.nearest 8)
      actionDefinitionId := "notify"
      action := "notify"
      actionVersion := "1"
      reservationDigestReference := "reservation"
      reservedAt := 7 }
  expectedStateRevision := .nearest 7
  expectedAuditRevision := one
  commitFacts :=
    { runtimeTransactionReceiptId := 24
      recordReceipts :=
        [⟨.executionState, 10, 25, .nearest 8, "state"⟩,
          ⟨.auditTrail, 19, 26, .nearest 2, "trail-second"⟩,
          ⟨.idempotencyReservation, 23, 27, one, "reservation"⟩]
      transactionDigestReference := "transaction"
      clockReference := "clock" }
  requestedAt := 8

theorem resolvedEntry : RuntimeActionResolutionStatus.resolved = .resolved ↔
    (some 15 : Option UUID) ≠ none := by
  decide

/-- The request to commit them. -/
def commitRequest : RuntimeOrchestrationCommitRequest where
  runtimeOrchestrationCommitId := 28
  contractVersion := ⟨"1", "1", "1"⟩
  invocationOutcome :=
    { runtimeOrchestrationInvocationId := 29
      contractVersion := ⟨"1", "1", "1"⟩
      invocationRequest :=
        { runtimeOrchestrationInvocationId := 29
          contractVersion := ⟨"1", "1", "1"⟩
          authority := authority
          plan := plan
          state := runningState
          registrySnapshot := snapshot
          registryResolutionRequest := ⟨30, snapshotReference⟩
          registryResolution :=
            { runtimeActionResolutionDecisionId := 18
              runtimeActionResolutionRequestId := 30
              snapshotReference := snapshotReference
              decisionStatus := .resolved
              resolvedSnapshotEntryId := some 15
              classification := .internal
              outcome := resolvedEntry }
          auditTrail := auditTrail
          envelope := envelope }
      clockReading := ⟨"clock", 6⟩
      result := result
      completedAt := 7 }
  writeSet := writeSet
  requestedAt := 8

end CommittedTransition

open CommittedTransition in
/-- A running execution that succeeds is recorded by one more transition, and its
commit is accepted. -/
theorem stateRecords_grow_succeeding :
    validateRuntimeExecutionStateRecord succeededState = .ok () ∧ StatePath succeededState ∧
      writeSet.stateRecord.transitions = transitionsToRunning ++ [succeeding] := by
  have commitAccepted : validateRuntimeOrchestrationCommitRequest commitRequest = .ok () := by
    decide +kernel
  have built : buildRuntimeStateTransitionRecord 307 succeeding.transitionRequest
      succeeding.transitionDecision 7 = .ok succeeding := by decide +kernel
  obtain ⟨_, accepted, _⟩ := stateRecords_grow.1 runningState succeeding.transitionRequest authority
    (some plan) succeeding.transitionDecision 307 7 succeeding (by decide +kernel)
    (by decide +kernel) (by decide +kernel) built
  obtain ⟨_, _, _, _, _⟩ := stateRecords_grow.2.2 commitRequest commitAccepted
  exact ⟨accepted, stateRecords_grow.2.1 succeededState accepted, rfl⟩

end PolicyOS.Runtime
