import PolicyOS.Runtime.Persistence.DueSelection

/-!
# Scheduled retries

A scheduled retry is a head that waits for another attempt. An append is checked
for the identifier and effect of its retry decision only: whether the decision is
approved, of the attempt under delivery and within the envelope is for its caller.
A run whose appends are governed in this sense schedules only retries that are
authorised, bounded and returned by every selection late enough.
-/

namespace PolicyOS.Runtime

open Foundation

/-! ## What a scheduled retry should be -/

/-- The rows a selection returns before this one. -/
def rowsAhead (store : RuntimeEffectStore) (request : RuntimeEffectDueSelectionRequest)
    (row : DueRow) : List DueRow :=
  ((store.effects ×ˢ store.heads).filter (selectsDue request)).filter fun other =>
    (orderKey row).greater (orderKey other)

/-- Every selection of the effect's scope that is late enough and has room returns the
candidate of its head. -/
def ReturnedFrom (store : RuntimeEffectStore) (row : DueRow) (eligibleAt : DateTime) : Prop :=
  ∀ request : RuntimeEffectDueSelectionRequest, request.tenantId = row.1.tenantId →
    request.organizationId = row.1.organizationId →
    request.classification = row.1.classification → eligibleAt ≤ request.observedAt →
    (rowsAhead store request row).length < request.maximumCandidateCount.val →
    ∃ candidates, selectDue store request = .ok candidates ∧
      candidateAt row eligibleAt ∈ candidates

/-- The revisions of a retry: the one under delivery, those that report on it, and
the one that schedules the retry of its attempt. -/
structure RetryLog (revisions : List RuntimeEffectLifecycleRevision)
    (decision : RuntimeEffectRetryDecision) (begun : RuntimeEffectLifecycleRevision)
    (reports : List RuntimeEffectLifecycleRevision) : Prop where
  log : ∃ earlier scheduled, revisions = earlier ++ begun :: (reports ++ [scheduled]) ∧
    scheduled.lifecycleStatus = .retryScheduled ∧
    scheduled.retryDecisionPayload = some decision
  delivering : begun.lifecycleStatus = .delivering
  reports : ∀ report ∈ reports, report.lifecycleStatus = .ambiguous
  attempt : begun.lifecycleRecordPayload.runtimeEffectDeliveryAttemptId =
    some decision.priorAttemptId

/-- The decision passes its validation for the stored effect from its eligible time on,
with a result of the attempt, the reported one if there is one, and with stored
observations only. -/
def PassesValidation (store : RuntimeEffectStore) (effect : RuntimeEffect)
    (decision : RuntimeEffectRetryDecision) (reports : List RuntimeEffectLifecycleRevision) :
    Prop :=
  ∃ priorResult observation,
    (∀ report ∈ reports, report.resultPayload = some priorResult) ∧
    (∀ fact ∈ observation, ∃ row ∈ store.observations, row.observationPayload = fact) ∧
    ∀ observedAt, (∀ eligibleAt ∈ decision.eligibleAt, eligibleAt ≤ observedAt) →
      validateRuntimeEffectRetryDecision effect.initialEffectEnqueuePayload.effectIdentity
        effect.initialEffectEnqueuePayload.deliveryEnvelope priorResult decision observedAt
        observation = .ok ()

/-- A scheduled retry is authorised, bounded and eventually due. -/
structure RetryAuthorised (store : RuntimeEffectStore) (effect : RuntimeEffect)
    (head : RuntimeEffectLifecycleHead) (decision : RuntimeEffectRetryDecision) : Prop where
  decided : head.currentRetryDecisionPayload = some decision
  approved : decision.decisionStatus = .approved
  authorised : ∃ begun reports,
    RetryLog (store.revisionsOf head.key) decision begun reports ∧
      PassesValidation store effect decision reports
  due : ∃ eligibleAt, head.nextEligibleAt = some eligibleAt ∧
    ReturnedFrom store (effect, head) eligibleAt

/-- No stored attempt exceeds the bound of its effect's envelope. -/
def AttemptsBounded (store : RuntimeEffectStore) : Prop :=
  ∀ row ∈ store.revisions, ∀ attempt ∈ row.attemptPayload, ∀ effect ∈ store.effects,
    effect.key = row.key → attempt.attemptNumber.val ≤
      effect.initialEffectEnqueuePayload.deliveryEnvelope.maximumAttemptCount.val

/-- Every scheduled retry is authorised for its effect, and no attempt exceeds the bound
of its envelope. -/
structure RetriesAuthorised (store : RuntimeEffectStore) : Prop where
  retries : ∀ head ∈ store.heads, head.currentStatus = .retryScheduled →
    ∃ effect ∈ store.effects, effect.key = head.key ∧
      ∃ decision, RetryAuthorised store effect head decision
  bounded : AttemptsBounded store

/-! ## Governed appends -/

/-- What the append of a scheduled retry leaves to its caller. -/
structure GovernedRetry (store : RuntimeEffectStore) (head : RuntimeEffectLifecycleHead)
    (request : RuntimeEffectLifecycleRequest) (decision : RuntimeEffectRetryDecision) : Prop where
  invoked : request.definitelyNotInvoked = none
  reported : head.currentStatus ∈ [.delivering, .ambiguous]
  approved : decision.decisionStatus = .approved
  attempt : head.currentLifecyclePayload.runtimeEffectDeliveryAttemptId =
    some decision.priorAttemptId
  envelope : ∀ effect ∈ store.effects, effect.key = head.key →
    decision.effectFingerprintDigestReference =
      effect.initialEffectEnqueuePayload.effectIdentity.effectFingerprintDigestReference ∧
    decision.maximumAttemptCount =
      effect.initialEffectEnqueuePayload.deliveryEnvelope.maximumAttemptCount ∧
    effect.initialEffectEnqueuePayload.deliveryEnvelope.retryEligible = true
  result : ∀ row ∈ store.revisions, row.key = head.key →
    row.lifecycleRevision = head.currentLifecycleRevision → ∀ result ∈ row.resultPayload,
      result.runtimeEffectDeliveryAttemptId = decision.priorAttemptId ∧
      result.certainty = decision.priorCertainty
  reconciled : decision.priorCertainty = .ambiguous →
    ∃ fact ∈ request.reconciliationObservation, fact.outcome = .confirmedNotDelivered ∧
      decision.reconciliationObservationId = some fact.runtimeEffectReconciliationObservationId

instance (store : RuntimeEffectStore) (head : RuntimeEffectLifecycleHead)
    (request : RuntimeEffectLifecycleRequest) (decision : RuntimeEffectRetryDecision) :
    Decidable (GovernedRetry store head request decision) :=
  decidable_of_iff
    (request.definitelyNotInvoked = none ∧
      head.currentStatus ∈ [RuntimeEffectLifecycleStatus.delivering, .ambiguous] ∧
      decision.decisionStatus = .approved ∧
      head.currentLifecyclePayload.runtimeEffectDeliveryAttemptId =
        some decision.priorAttemptId ∧
      (∀ effect ∈ store.effects, effect.key = head.key →
        decision.effectFingerprintDigestReference =
          effect.initialEffectEnqueuePayload.effectIdentity.effectFingerprintDigestReference ∧
        decision.maximumAttemptCount =
          effect.initialEffectEnqueuePayload.deliveryEnvelope.maximumAttemptCount ∧
        effect.initialEffectEnqueuePayload.deliveryEnvelope.retryEligible = true) ∧
      (∀ row ∈ store.revisions, row.key = head.key →
        row.lifecycleRevision = head.currentLifecycleRevision → ∀ result ∈ row.resultPayload,
          result.runtimeEffectDeliveryAttemptId = decision.priorAttemptId ∧
          result.certainty = decision.priorCertainty) ∧
      (decision.priorCertainty = .ambiguous →
        ∃ fact ∈ request.reconciliationObservation, fact.outcome = .confirmedNotDelivered ∧
          decision.reconciliationObservationId =
            some fact.runtimeEffectReconciliationObservationId))
    ⟨fun ⟨invoked, reported, approved, attempt, envelope, result, reconciled⟩ =>
        ⟨invoked, reported, approved, attempt, envelope, result, reconciled⟩,
      fun governed => ⟨governed.invoked, governed.reported, governed.approved, governed.attempt,
        governed.envelope, governed.result, governed.reconciled⟩⟩

/-- A retry is scheduled by a governed decision, an ambiguous outcome is of the attempt
under delivery, and no attempt exceeds the bound of its envelope. -/
def governsRetries : StoreGuard := fun store head request =>
  (request.lifecycleRecord.status = .retryScheduled →
    ∃ decision ∈ request.retryDecision, GovernedRetry store head request decision) ∧
  (request.lifecycleRecord.status = .ambiguous → head.currentStatus = .delivering ∧
    request.lifecycleRecord.runtimeEffectDeliveryAttemptId =
      head.currentLifecyclePayload.runtimeEffectDeliveryAttemptId) ∧
  ∀ attempt ∈ request.attempt, ∀ effect ∈ store.effects, effect.key = head.key →
    attempt.attemptNumber.val ≤
      effect.initialEffectEnqueuePayload.deliveryEnvelope.maximumAttemptCount.val

instance (store : RuntimeEffectStore) (head : RuntimeEffectLifecycleHead)
    (request : RuntimeEffectLifecycleRequest) : Decidable (governsRetries store head request) :=
  inferInstanceAs (Decidable ((_ → _) ∧ (_ → _) ∧ _))

variable {store : RuntimeEffectStore} {head : RuntimeEffectLifecycleHead}
  {request : RuntimeEffectLifecycleRequest} {effect : RuntimeEffect}

theorem schedulesWithoutClaim_of_governed (governed : governsRetries store head request) :
    schedulesWithoutClaim head request := by
  intro notInvoked isRetry
  obtain ⟨decision, _, retry⟩ := governed.1 isRetry
  exact absurd retry.invoked notInvoked

/-! ## Selection of a ready retry -/

section Selection

variable {store : RuntimeEffectStore} {request : RuntimeEffectDueSelectionRequest} {row : DueRow}

/-- A selected row with room before it is returned. -/
theorem mem_dueRows_of_room (keys : KeysPaired store) (isEffect : row.1 ∈ store.effects)
    (isHead : row.2 ∈ store.heads) (selected : selectsDue request row)
    (room : (rowsAhead store request row).length < request.maximumCandidateCount.val) :
    row ∈ dueRows store request := by
  unfold dueRows
  have sorted := ordered_insertionSort ((store.effects ×ˢ store.heads).filter (selectsDue request))
  have reordered := List.perm_insertionSort
    (fun left right => ¬ (orderKey left).greater (orderKey right))
    ((store.effects ×ˢ store.heads).filter (selectsDue request))
  have stored : ∀ {other}, other ∈ (store.effects ×ˢ store.heads).filter (selectsDue request) →
      other.1 ∈ store.effects ∧ other.2 ∈ store.heads ∧ selectsDue request other := by
    intro other isOther
    obtain ⟨isPair, chosen⟩ := List.mem_filter.mp isOther
    have pair := List.mem_product.mp (show (other.1, other.2) ∈ _ from isPair)
    exact ⟨pair.1, pair.2, of_decide_eq_true chosen⟩
  have isRow : row ∈ (store.effects ×ˢ store.heads).filter (selectsDue request) :=
    List.mem_filter.mpr ⟨List.mem_product.mpr ⟨isEffect, isHead⟩, decide_eq_true selected⟩
  unfold rowsAhead at room
  rw [← (reordered.filter _).length_eq] at room
  obtain ⟨front, rest, split, fresh⟩ := List.eq_append_cons_of_mem (reordered.mem_iff.mpr isRow)
  have inFront : ∀ other ∈ front, (orderKey row).greater (orderKey other) := by
    intro other isOther
    have listed : other ∈ (store.effects ×ˢ store.heads).filter (selectsDue request) := by
      rw [← reordered.mem_iff, split]
      exact List.mem_append_left _ isOther
    rw [split, List.pairwise_append] at sorted
    have notAfter := sorted.2.2 other isOther row (List.mem_cons_self ..)
    rcases DueKey.trichotomy (orderKey row) (orderKey other) with same | greater | less
    · obtain rfl := selected_inj keys ⟨isEffect, isHead, selected⟩ (stored listed) same
      exact absurd isOther fresh
    · exact greater
    · exact absurd less notAfter
  have short : front.length < request.maximumCandidateCount.val := by
    refine lt_of_le_of_lt ?_ room
    rw [split, List.filter_append, List.length_append,
      List.filter_eq_self.mpr fun other isOther => decide_eq_true (inFront other isOther)]
    exact Nat.le_add_right _ _
  rw [split, List.take_append]
  refine List.mem_append_right _ ?_
  obtain ⟨left, isLeft⟩ := Nat.exists_eq_add_of_lt short
  rw [isLeft, show front.length + left + 1 - front.length = left + 1 by omega]
  exact List.mem_cons_self ..

/-- A selection returns the candidate of each of its rows. -/
theorem mem_of_selectDue {candidates : List RuntimeEffectDueCandidate}
    {candidate : RuntimeEffectDueCandidate}
    (selection : selectDue store request = .ok candidates) (isRow : row ∈ dueRows store request)
    (projected : dueCandidate row = .ok candidate) : candidate ∈ candidates := by
  simp only [selectDue, validateRuntimeEffectDueCandidates, bind_eq_ok_iff, rejectIf_eq_ok_iff,
    exists_unit_iff, pure_eq_ok_iff, collectEach_eq_ok_iff] at selection
  obtain ⟨collected, each, _, _, _, rfl⟩ := selection
  obtain ⟨position, bound, rfl⟩ := List.getElem_of_mem isRow
  have sameLength := each.length_eq
  have computed := List.Forall₂.get each bound (sameLength ▸ bound)
  simp only [List.get_eq_getElem, projected, Except.ok.injEq] at computed
  exact computed ▸ List.getElem_mem _

theorem selectDue_of_none (unselected : dueRows store request = []) :
    selectDue store request = .ok [] := by
  simp only [selectDue, unselected, validateRuntimeEffectDueCandidates, bind_eq_ok_iff,
    rejectIf_eq_ok_iff, exists_unit_iff, pure_eq_ok_iff, collectEach_eq_ok_iff,
    checkEach_eq_ok_iff]
  exact ⟨[], .nil, Nat.not_lt_zero _, by simp [outOfOrder], by simp, rfl⟩

end Selection

/-- A scheduled retry of a store ready for selection is returned from its eligible time
on. -/
theorem DueKept.returnedFrom (kept : DueKept store) (isEffect : effect ∈ store.effects)
    (isHead : head ∈ store.heads) (sameKey : effect.key = head.key)
    (isRetry : head.currentStatus = .retryScheduled) {eligibleAt : DateTime}
    (eligible : head.nextEligibleAt = some eligibleAt) :
    ReturnedFrom store (effect, head) eligibleAt := by
  intro request tenant organization classification reached room
  have selected : selectsDue request (effect, head) := by
    refine ⟨sameKey, tenant.symm, organization.symm, classification.symm, .inl ⟨?_, ?_⟩⟩
    · rw [isRetry]
      decide
    · exact ⟨eligibleAt, eligible, reached⟩
  have isRow := mem_dueRows_of_room kept.keys isEffect isHead selected room
  obtain ⟨candidates, selection⟩ := kept.selectDue request
  have effective : head.effective = some eligibleAt := by
    rw [RuntimeEffectLifecycleHead.effective, if_neg (by rw [isRetry]; decide), eligible]
  have projected : dueCandidate (effect, head) = .ok (candidateAt (effect, head) eligibleAt) := by
    simp only [dueCandidate, (kept.ready head isHead).dueInstant_eq, effective]
  exact ⟨candidates, selection, mem_of_selectDue selection isRow projected⟩

/-! ## Governed runs -/

/-- The revisions of an ambiguous effect: the one under delivery, and its report. -/
def AmbiguousLog (store : RuntimeEffectStore) (head : RuntimeEffectLifecycleHead) : Prop :=
  ∃ earlier begun report, store.revisionsOf head.key = earlier ++ [begun, report] ∧
    begun.lifecycleStatus = .delivering ∧ report.lifecycleStatus = .ambiguous ∧
    (∃ result, report.resultPayload = some result) ∧
    report.lifecycleRecordPayload.runtimeEffectDeliveryAttemptId =
      begun.lifecycleRecordPayload.runtimeEffectDeliveryAttemptId

/-- A scheduled retry before it is looked at by a selection. -/
structure RetryStored (store : RuntimeEffectStore) (effect : RuntimeEffect)
    (head : RuntimeEffectLifecycleHead) (decision : RuntimeEffectRetryDecision) : Prop where
  decided : head.currentRetryDecisionPayload = some decision
  approved : decision.decisionStatus = .approved
  eligible : head.nextEligibleAt = decision.eligibleAt
  authorised : ∃ begun reports,
    RetryLog (store.revisionsOf head.key) decision begun reports ∧
      PassesValidation store effect decision reports

/-- What governed writes keep of every head and revision. -/
structure RetriesKept (store : RuntimeEffectStore) : Prop where
  due : DueKept store
  ambiguous : ∀ head ∈ store.heads, head.currentStatus = .ambiguous → AmbiguousLog store head
  retries : ∀ head ∈ store.heads, head.currentStatus = .retryScheduled →
    ∃ effect ∈ store.effects, effect.key = head.key ∧ ∃ decision,
      RetryStored store effect head decision
  bounded : AttemptsBounded store

namespace Sample

theorem failedInTime : (11 : DateTime) ≤ 12 := by decide

/-- A failure of one attempt. -/
def failedResult (attemptId : UUID) : RuntimeEffectDeliveryResult where
  runtimeEffectDeliveryResultId := 101
  runtimeEffectId := 3
  runtimeEffectDeliveryAttemptId := attemptId
  certainty := .definitelyNotDelivered
  adapterReference := "desk-adapter"
  adapterContractVersion := "1"
  failureCode := some .unavailable
  failureReference := some "unavailable"
  startedAt := 11
  completedAt := 12
  resultFactDigestReference := "result-fact"
  completionOrder := failedInTime

end Sample

/-- Some result reports any certainty of any attempt. -/
theorem exists_result (attemptId : UUID) (certainty : RuntimeEffectDeliveryCertainty) :
    ∃ result : RuntimeEffectDeliveryResult,
      result.runtimeEffectDeliveryAttemptId = attemptId ∧ result.certainty = certainty := by
  cases certainty with
  | delivered =>
      exact ⟨{ Sample.failedResult attemptId with
        certainty := .delivered
        resultReference := some "result"
        resultDigestReference := some "result-digest"
        acknowledgementReference := some "ack"
        acknowledgementDigestReference := some "ack-digest"
        failureCode := none
        failureReference := none
        boundedOutcome := by decide }, rfl, rfl⟩
  | definitelyNotDelivered => exact ⟨Sample.failedResult attemptId, rfl, rfl⟩
  | ambiguous =>
      exact ⟨{ Sample.failedResult attemptId with
        certainty := .ambiguous
        boundedOutcome := by simp [Sample.failedResult]; decide }, rfl, rfl⟩

theorem DueKept.effect_key (kept : DueKept store) (isEffect : effect ∈ store.effects) :
    effect.initialEffectEnqueuePayload.effectIdentity.key = effect.key := by
  obtain ⟨initial, storedAt, _, rfl⟩ := kept.effects effect isEffect
  rfl

/-- The facts of an append are of the effect of its head. -/
theorem committed_facts {store next : RuntimeEffectStore}
    (committed : CommitStep store head request next) :
    (∀ decision, request.retryDecision = some decision →
      decision.runtimeEffectId = head.runtimeEffectId) ∧
    ∀ fact, request.reconciliationObservation = some fact →
      fact.runtimeEffectId = head.runtimeEffectId := by
  have sameEffect : request.effectIdentity.runtimeEffectId = head.runtimeEffectId :=
    (congrArg EffectKey.runtimeEffectId committed.scope.1).symm
  cases request with
  | claim request =>
      exact ⟨fun _ supplied => absurd supplied.symm (Option.some_ne_none _),
        fun _ supplied => absurd supplied.symm (Option.some_ne_none _)⟩
  | append request =>
      have bound := AppendRequestBound.of_validate committed.valid
      exact ⟨fun decision supplied => (bound.retryEvidence.fact_effect supplied).trans sameEffect,
        fun fact supplied => (bound.observationEvidence.fact_effect supplied).trans sameEffect⟩

theorem Flushed.observation_stored {store next : RuntimeEffectStore}
    (flushed : Flushed store head request next) {fact : RuntimeEffectReconciliationObservation}
    (supplied : fact ∈ request.reconciliationObservation) :
    ∃ row ∈ next.observations, row.observationPayload = fact := by
  rw [Option.mem_def] at supplied
  rw [flushed.observations, observationRow, supplied]
  exact ⟨_, List.mem_append_right _ (List.mem_singleton_self _), rfl⟩

/-- The decision of a governed commit passes its validation. -/
theorem GovernedRetry.passes {store next : RuntimeEffectStore}
    {decision : RuntimeEffectRetryDecision} (committed : CommitStep store head request next)
    (supplied : request.retryDecision = some decision)
    (governed : GovernedRetry store head request decision) (isEffect : effect ∈ store.effects)
    (sameKey : effect.key = head.key)
    (identity : effect.initialEffectEnqueuePayload.effectIdentity.key = effect.key)
    {reports : List RuntimeEffectLifecycleRevision} {priorResult : RuntimeEffectDeliveryResult}
    (reported : ∀ report ∈ reports, report.resultPayload = some priorResult)
    (attempt : priorResult.runtimeEffectDeliveryAttemptId = decision.priorAttemptId)
    (certainty : priorResult.certainty = decision.priorCertainty) :
    PassesValidation next effect decision reports := by
  have sameEffect : effect.initialEffectEnqueuePayload.effectIdentity.runtimeEffectId =
      head.runtimeEffectId :=
    congrArg EffectKey.runtimeEffectId (identity.trans sameKey)
  obtain ⟨ofDecision, ofObservation⟩ := committed_facts committed
  obtain ⟨fingerprint, maximum, eligible⟩ := governed.envelope effect isEffect sameKey
  refine ⟨priorResult, request.reconciliationObservation, reported,
    fun fact supplied => committed.flushed.observation_stored supplied, ?_⟩
  intro observedAt reached
  rw [validateRuntimeEffectRetryDecision_eq_ok_iff governed.approved]
  obtain ⟨eligibleAt, isEligible⟩ :=
    Option.ne_none_iff_exists'.mp (decision.approvedGate governed.approved).2.2.1
  refine ⟨(ofDecision decision supplied).trans sameEffect.symm, fingerprint, attempt.symm,
    certainty.symm, maximum, eligible, ⟨eligibleAt, isEligible, reached eligibleAt isEligible⟩, ?_⟩
  intro ambiguous
  obtain ⟨fact, isFact, confirmed, named⟩ := governed.reconciled (certainty.symm.trans ambiguous)
  exact ⟨fact, isFact, (ofObservation fact isFact).trans sameEffect.symm, confirmed, named⟩

theorem LogsKept.ends (kept : LogsKept store) (stored : head ∈ store.heads) :
    ∃ front last, store.revisionsOf head.key = front ++ [last] ∧ Represents head last := by
  obtain ⟨last, isLast, shown⟩ := (kept.logs head stored).shown
  obtain ⟨front, split⟩ := List.getLast?_eq_some_iff.mp isLast
  exact ⟨front, last, split, shown⟩

theorem CommitStep.revisionsOf_advanced {store next : RuntimeEffectStore}
    (committed : CommitStep store head request next) :
    next.revisionsOf (advanceHead head request).key =
      store.revisionsOf head.key ++ [revisionOf request request.requestedAt] := by
  rw [advanceHead_key, revisionsOf_of_snoc committed.flushed.revisions, revisionOf_key,
    if_pos committed.scope.1.symm]

/-- A governed commit of an ambiguous outcome extends the log it reports on. -/
theorem AmbiguousLog.of_commit {store next : RuntimeEffectStore} (logs : LogsKept store)
    (committed : CommitStep store head request next) (governed : governsRetries store head request)
    (isAmbiguous : request.lifecycleRecord.status = .ambiguous) :
    AmbiguousLog next (advanceHead head request) := by
  obtain ⟨front, last, split, shown⟩ := logs.ends committed.stored
  obtain ⟨delivering, attempt⟩ := governed.2.1 isAmbiguous
  refine ⟨front, last, revisionOf request request.requestedAt, ?_, shown.status.trans delivering,
    isAmbiguous, ?_, ?_⟩
  · rw [committed.revisionsOf_advanced, split, List.append_assoc]
    rfl
  · cases request with
    | claim request =>
        have status := (ClaimRequestBound.of_validate committed.valid).status
        exact absurd (status.symm.trans isAmbiguous) (by decide)
    | append request =>
        have bound := AppendRequestBound.of_validate committed.valid
        have required : request.append.lifecycleRecord.runtimeEffectDeliveryResultId ≠ none := by
          refine request.append.lifecycleRecord.resultEvidence.1 ?_
          rw [show request.append.lifecycleRecord.status = .ambiguous from isAmbiguous]
          decide
        obtain ⟨result, supplied, _⟩ := bound.resultEvidence.supplied required
        exact ⟨result, supplied⟩
  · rw [shown.payload]
    exact attempt

/-- A governed commit of a scheduled retry stores it. -/
theorem RetryStored.of_commit {store next : RuntimeEffectStore} (logs : LogsKept store)
    (kept : RetriesKept store) (committed : CommitStep store head request next)
    (governed : governsRetries store head request)
    (isRetry : request.lifecycleRecord.status = .retryScheduled) :
    ∃ effect ∈ next.effects, effect.key = head.key ∧ ∃ decision,
      RetryStored next effect (advanceHead head request) decision := by
  obtain ⟨decision, supplied, retry⟩ := governed.1 isRetry
  rw [Option.mem_def] at supplied
  have listed : head.key ∈ store.effects.map (·.key) :=
    kept.due.keys.paired ▸ List.mem_map_of_mem committed.stored
  obtain ⟨effect, isEffect, sameKey⟩ := List.mem_map.mp listed
  have identity := kept.due.effect_key isEffect
  refine ⟨effect, committed.flushed.effects ▸ isEffect, sameKey, decision, supplied,
    retry.approved, ?_, ?_⟩
  · have notEnqueued : request.lifecycleRecord.status ≠ .enqueued := by
      rw [isRetry]
      decide
    simp only [advanceHead]
    rw [if_neg notEnqueued, supplied, Option.bind_some]
  · obtain ⟨front, last, split, shown⟩ := logs.ends committed.stored
    have status := retry.reported
    simp only [List.mem_cons, List.not_mem_nil, or_false] at status
    rcases status with delivering | ambiguous
    · obtain ⟨priorResult, attempt, certainty⟩ :=
        exists_result decision.priorAttemptId decision.priorCertainty
      have none_reports : ∀ {Property : RuntimeEffectLifecycleRevision → Prop}, ∀ report ∈ [],
          Property report := fun _ present => absurd present List.not_mem_nil
      refine ⟨last, [], ⟨⟨front, revisionOf request request.requestedAt, ?_, isRetry, supplied⟩,
        shown.status.trans delivering, none_reports, ?_⟩,
        retry.passes committed supplied isEffect sameKey identity none_reports attempt certainty⟩
      · rw [committed.revisionsOf_advanced, split, List.append_assoc]
        rfl
      · rw [shown.payload]
        exact retry.attempt
    · obtain ⟨earlier, begun, report, reported, begins, isReport, ⟨priorResult, hasResult⟩,
        sameAttempt⟩ := kept.ambiguous head committed.stored ambiguous
      have same := split.symm.trans reported
      rw [show earlier ++ [begun, report] = (earlier ++ [begun]) ++ [report] by simp] at same
      obtain ⟨rfl, lastSame⟩ := List.append_inj' same rfl
      obtain rfl : last = report := List.head_eq_of_cons_eq lastSame
      have stored : last ∈ store.revisions := by
        have listed : last ∈ store.revisionsOf head.key := by
          rw [split]
          exact List.mem_append_right _ (List.mem_singleton_self last)
        exact List.mem_of_mem_filter listed
      obtain ⟨attempt, certainty⟩ :=
        retry.result last stored shown.key shown.revision priorResult hasResult
      refine ⟨begun, [last], ⟨⟨earlier, revisionOf request request.requestedAt, ?_, isRetry,
        supplied⟩, begins, ?_, ?_⟩,
        retry.passes committed supplied isEffect sameKey identity ?_ attempt certainty⟩
      · rw [committed.revisionsOf_advanced, split]
        simp only [List.append_assoc, List.cons_append, List.nil_append]
      · intro only isReported
        obtain rfl := List.mem_singleton.mp isReported
        exact isReport
      · rw [← sameAttempt, shown.payload]
        exact retry.attempt
      · intro only isReported
        obtain rfl := List.mem_singleton.mp isReported
        exact hasResult

theorem CommitStep.revisionsOf_other {store next : RuntimeEffectStore}
    {head other : RuntimeEffectLifecycleHead} (committed : CommitStep store head request next)
    (different : other.key ≠ head.key) :
    next.revisionsOf other.key = store.revisionsOf other.key := by
  rw [revisionsOf_of_snoc committed.flushed.revisions, revisionOf_key, if_neg]
  rw [← committed.scope.1]
  exact different.symm

/-- A stored retry outlives a write that leaves its revisions and adds observations. -/
theorem RetryStored.carried {store next : RuntimeEffectStore}
    {decision : RuntimeEffectRetryDecision} (stored : RetryStored store effect head decision)
    (revisions : next.revisionsOf head.key = store.revisionsOf head.key)
    (observations : store.observations ⊆ next.observations) :
    RetryStored next effect head decision := by
  obtain ⟨begun, reports, log, priorResult, observation, reported, observed, passes⟩ :=
    stored.authorised
  refine ⟨stored.decided, stored.approved, stored.eligible, begun, reports, revisions ▸ log,
    priorResult, observation, reported, ?_, passes⟩
  intro fact isFact
  obtain ⟨row, isRow, payload⟩ := observed fact isFact
  exact ⟨row, observations isRow, payload⟩

/-- An enqueue adds an effect without attempts. -/
theorem AttemptsBounded.of_enqueue {store next : RuntimeEffectStore}
    {initial : RuntimeInitialEffectEnqueue} {requestedAt storedAt : DateTime}
    (logs : LogsKept store) (bounded : AttemptsBounded store)
    (enqueued : InitiallyEnqueued store initial requestedAt storedAt next) :
    AttemptsBounded next := by
  intro row isRow attempt isAttempt effect isEffect sameKey
  rw [enqueued.revisions, List.mem_append, List.mem_singleton] at isRow
  rw [enqueued.effects, List.mem_append, List.mem_singleton] at isEffect
  rcases isRow with storedRow | rfl
  · rcases isEffect with storedEffect | rfl
    · exact bounded row storedRow attempt isAttempt effect storedEffect sameKey
    · -- The effect of a stored revision has a head, and the enqueued one had none.
      obtain ⟨head, isHead, home⟩ := logs.homes row storedRow
      rw [RuntimeInitialEffectEnqueue.effectRow_key] at sameKey
      exact absurd (sameKey.trans home.symm) (enqueued.freshHead head isHead)
  · cases isAttempt

/-- A governed commit adds no attempt beyond the bound. -/
theorem AttemptsBounded.of_commit {store next : RuntimeEffectStore}
    (bounded : AttemptsBounded store) (committed : CommitStep store head request next)
    (governed : governsRetries store head request) : AttemptsBounded next := by
  intro row isRow attempt isAttempt effect isEffect sameKey
  rw [committed.flushed.revisions, List.mem_append, List.mem_singleton] at isRow
  rw [committed.flushed.effects] at isEffect
  rcases isRow with storedRow | rfl
  · exact bounded row storedRow attempt isAttempt effect isEffect sameKey
  · refine governed.2.2 attempt isAttempt effect isEffect ?_
    rw [sameKey, revisionOf_key, committed.scope.1]

/-- An enqueue adds a head that schedules nothing. -/
theorem RetriesKept.of_enqueue {store next : RuntimeEffectStore}
    {initial : RuntimeInitialEffectEnqueue} {requestedAt storedAt : DateTime}
    (logs : LogsKept store) (kept : RetriesKept store) (due : DueKept next)
    (enqueued : InitiallyEnqueued store initial requestedAt storedAt next) : RetriesKept next := by
  have status : (initial.headRow storedAt).currentStatus = .enqueued := enqueued.bound.status
  have earlier : ∀ head ∈ store.heads,
      next.revisionsOf head.key = store.revisionsOf head.key := by
    intro head isHead
    rw [revisionsOf_of_snoc enqueued.revisions, RuntimeInitialEffectEnqueue.revisionRow_key,
      if_neg (enqueued.freshHead head isHead)]
  refine ⟨due, ?_, ?_, kept.bounded.of_enqueue logs enqueued⟩
  · intro head isHead isAmbiguous
    rw [enqueued.heads, List.mem_append, List.mem_singleton] at isHead
    rcases isHead with isStored | rfl
    · have log := kept.ambiguous head isStored isAmbiguous
      unfold AmbiguousLog at log ⊢
      rwa [earlier head isStored]
    · exact absurd (status.symm.trans isAmbiguous) (by decide)
  · intro head isHead isRetry
    rw [enqueued.heads, List.mem_append, List.mem_singleton] at isHead
    rcases isHead with isStored | rfl
    · obtain ⟨effect, isEffect, sameKey, decision, retry⟩ := kept.retries head isStored isRetry
      refine ⟨effect, ?_, sameKey, decision, retry.carried (earlier head isStored) ?_⟩
      · rw [enqueued.effects]
        exact List.mem_append_left _ isEffect
      · rw [enqueued.observations]
        exact List.Subset.refl _
    · exact absurd (status.symm.trans isRetry) (by decide)

/-- A governed commit stores the retry of its head and carries the others. -/
theorem RetriesKept.of_commit {store next : RuntimeEffectStore} (logs : LogsKept store)
    (kept : RetriesKept store) (due : DueKept next) (committed : CommitStep store head request next)
    (governed : governsRetries store head request) : RetriesKept next := by
  refine ⟨due, ?_, ?_, kept.bounded.of_commit committed governed⟩
  · intro current isHead isAmbiguous
    rw [committed.flushed.heads, List.mem_map] at isHead
    obtain ⟨stored, isStored, rfl⟩ := isHead
    by_cases same : stored.key = head.key
    · rw [if_pos same] at isAmbiguous ⊢
      exact .of_commit logs committed governed isAmbiguous
    · rw [if_neg same] at isAmbiguous ⊢
      have log := kept.ambiguous stored isStored isAmbiguous
      unfold AmbiguousLog at log ⊢
      rwa [committed.revisionsOf_other same]
  · intro current isHead isRetry
    rw [committed.flushed.heads, List.mem_map] at isHead
    obtain ⟨stored, isStored, rfl⟩ := isHead
    by_cases same : stored.key = head.key
    · rw [if_pos same] at isRetry ⊢
      exact RetryStored.of_commit logs kept committed governed isRetry
    · rw [if_neg same] at isRetry ⊢
      obtain ⟨effect, isEffect, sameKey, decision, retry⟩ := kept.retries stored isStored isRetry
      refine ⟨effect, committed.flushed.effects ▸ isEffect, sameKey, decision,
        retry.carried (committed.revisionsOf_other same) ?_⟩
      rw [committed.flushed.observations]
      exact List.subset_append_left _ _

theorem StoreStep.retriesKept {store next : RuntimeEffectStore} {write : StoreWrite}
    (logs : LogsKept store) (kept : RetriesKept store) (step : StoreStep store write next)
    (governed : guardedWrite (governsRetries store) store write next) : RetriesKept next := by
  have due := step.dueKept kept.due fun head request isCommit =>
    schedulesWithoutClaim_of_governed (governed head request isCommit)
  cases write with
  | enqueue initial requestedAt storedAt => exact kept.of_enqueue logs due step
  | commit head request => exact kept.of_commit logs due step (governed head request rfl)

/-- Retries are kept along every governed run. -/
def retriesKept : (governedLifecycle governsRetries).Invariant :=
  governedInvariant governsRetries RetriesKept
    { due := ⟨⟨List.nodup_nil, rfl⟩, fun _ isEffect => absurd isEffect List.not_mem_nil,
        fun _ isHead => absurd isHead List.not_mem_nil⟩
      ambiguous := fun _ isHead => absurd isHead List.not_mem_nil
      retries := fun _ isHead => absurd isHead List.not_mem_nil
      bounded := fun _ isRow => absurd isRow List.not_mem_nil }
    fun stored kept step governed => step.retriesKept stored.logs kept governed

/-- In every governed run each scheduled retry is authorised, bounded and returned by
every selection late enough. -/
theorem retriesAuthorised {state : LifecycleState}
    (reachable : (governedLifecycle governsRetries).Reachable state) :
    RetriesAuthorised state.store := by
  obtain ⟨_, _, kept⟩ : LocksHeld state ∧ StoreKept (fun _ => True) state.store ∧
    RetriesKept state.store := retriesKept.of_reachable reachable
  refine ⟨?_, kept.bounded⟩
  intro head isHead isRetry
  obtain ⟨effect, isEffect, sameKey, decision, retry⟩ := kept.retries head isHead isRetry
  obtain ⟨eligibleAt, isEligible⟩ :=
    Option.ne_none_iff_exists'.mp (decision.approvedGate retry.approved).2.2.1
  have eligible := retry.eligible.trans isEligible
  exact ⟨effect, isEffect, sameKey, decision, retry.decided, retry.approved, retry.authorised,
    eligibleAt, eligible, kept.due.returnedFrom isEffect isHead sameKey isRetry eligible⟩

namespace Sample

/-- The append call that schedules a retry of the attempt under delivery. -/
def retryRequest (decision : RuntimeEffectRetryDecision) : RuntimeEffectLifecycleRequest :=
  .append
    { runtimeEffectLifecycleAppendRequestId := 63
      contractVersion := contractVersion
      append :=
        { effectIdentity := identity
          previousLifecycleRecord := deliveringRecord
          lifecycleRecord := retryRecord
          attempt := some attempt
          retryDecision := some decision
          receiptFact := receiptFact 54 retryRecord }
      clockReference := "clock"
      requestedAt := 12 }

/-- A decision against the retry. -/
def deniedDecision : RuntimeEffectRetryDecision :=
  { retryDecision with
    decisionStatus := .denied, nextAttemptId := none, eligibleAt := none
    approvedGate := by decide, deniedGate := by decide, observationPair := by decide }

/-- The whole run: enqueue, claim, delivering, retry scheduled. -/
def retryRun (decision : RuntimeEffectRetryDecision) : List LifecycleEvent :=
  deliveringRun ++ call 2 (retryRequest decision)

end Sample

/-- The retry of the sample effect is authorised once an approved decision schedules
it. -/
theorem retriesAuthorised_approved :
    ∃ state, LifecycleState.governedRun governsRetries {} (Sample.retryRun Sample.retryDecision) =
        some state ∧
      (∃ head ∈ state.store.heads, head.currentStatus = .retryScheduled) ∧
      RetriesAuthorised state.store := by
  have ran : (LifecycleState.governedRun governsRetries {}
    (Sample.retryRun Sample.retryDecision)).isSome := by decide
  have scheduled : ∃ head ∈ ((LifecycleState.governedRun governsRetries {}
      (Sample.retryRun Sample.retryDecision)).get ran).store.heads,
      head.currentStatus = .retryScheduled := by
    decide +revert
  exact ⟨_, (Option.some_get ran).symm, scheduled,
    retriesAuthorised ⟨{}, _, rfl, steps_of_governedRun (Option.some_get ran).symm⟩⟩

/-- An accepted append schedules a retry that its decision denies, and no selection ever
returns it. -/
theorem retry_stuck :
    ∃ state, lifecycleSystem.Reachable state ∧
      LifecycleState.run (fun _ _ => True) {} (Sample.retryRun Sample.deniedDecision) =
        some state ∧
      ¬ RetriesAuthorised state.store ∧
      ∀ request, selectDue state.store request = .ok [] := by
  have ran : (LifecycleState.run (fun _ _ => True) {}
    (Sample.retryRun Sample.deniedDecision)).isSome := by decide
  have stuck : ((LifecycleState.run (fun _ _ => True) {}
      (Sample.retryRun Sample.deniedDecision)).get ran).store.heads ≠ [] ∧
      ∀ head ∈ ((LifecycleState.run (fun _ _ => True) {}
        (Sample.retryRun Sample.deniedDecision)).get ran).store.heads,
        head.currentStatus = .retryScheduled ∧ head.nextEligibleAt = none := by
    decide +revert
  refine ⟨_, (reachable_of_run ran).of_restrict, (Option.some_get ran).symm, ?_, ?_⟩
  · intro authorised
    obtain ⟨head, isHead⟩ := List.exists_mem_of_ne_nil _ stuck.1
    obtain ⟨isRetry, never⟩ := stuck.2 head isHead
    obtain ⟨effect, _, _, decision, retry⟩ := authorised.retries head isHead isRetry
    obtain ⟨eligibleAt, eligible, _⟩ := retry.due
    rw [never] at eligible
    cases eligible
  · intro request
    have none_due : dueRows ((LifecycleState.run (fun _ _ => True) {}
        (Sample.retryRun Sample.deniedDecision)).get ran).store request = [] := by
      refine List.eq_nil_iff_forall_not_mem.mpr fun row isRow => ?_
      obtain ⟨_, isHead, selected⟩ := mem_dueRows isRow
      obtain ⟨isRetry, never⟩ := stuck.2 row.2 isHead
      rcases selected.2.2.2.2 with ⟨_, _, reached, _⟩ | ⟨claimed, _⟩
      · rw [never] at reached
        cases reached
      · rw [isRetry] at claimed
        cases claimed
    exact selectDue_of_none none_due

end PolicyOS.Runtime
