import PolicyOS.Runtime.Persistence.LifecycleSystem
import Mathlib.Data.List.ProdSigma

/-!
# Due selection

The query for due effects, its projection to candidates and their validation. A
head is ready for selection when its projected columns agree with its record.
Every commit makes its head ready, except one: not-invoked evidence of a scheduled
retry is appended with its claim, which stays on the head as the active claim.
-/

namespace PolicyOS.Runtime

open Foundation

/-- One joined row of the query. -/
abbrev DueRow := RuntimeEffect × RuntimeEffectLifecycleHead

/-- A nullable instant has come. Nulls never have. -/
def hasCome (instant : Option DateTime) (observedAt : DateTime) : Prop :=
  ∃ reached ∈ instant, reached ≤ observedAt

instance (instant : Option DateTime) (observedAt : DateTime) : Decidable (hasCome instant observedAt) :=
  inferInstanceAs (Decidable (∃ _ ∈ _, _))

/-- The instant that orders a head. -/
def RuntimeEffectLifecycleHead.effective (head : RuntimeEffectLifecycleHead) : Option DateTime :=
  if head.currentStatus = .claimed then head.claimExpiresAt else head.nextEligibleAt

/-- The query's conditions on a joined row. -/
def selectsDue (request : RuntimeEffectDueSelectionRequest) (row : DueRow) : Prop :=
  row.1.key = row.2.key ∧
  row.1.tenantId = request.tenantId ∧
  row.1.organizationId = request.organizationId ∧
  row.1.classification = request.classification ∧
  ((row.2.currentStatus ∈ [.enqueued, .retryScheduled] ∧
      hasCome row.2.nextEligibleAt request.observedAt) ∨
    (row.2.currentStatus = .claimed ∧ hasCome row.2.claimExpiresAt request.observedAt))

instance (request : RuntimeEffectDueSelectionRequest) (row : DueRow) :
    Decidable (selectsDue request row) :=
  inferInstanceAs (Decidable (_ ∧ _ ∧ _ ∧ _ ∧ (_ ∧ _ ∨ _ ∧ _)))

/-- The query's order. No selected row has a null in it. -/
def orderKey (row : DueRow) : DueKey :=
  (row.2.effective.getD 0, row.1.runtimeEffectId)

/-- The rows the query returns. -/
def dueRows (store : RuntimeEffectStore) (request : RuntimeEffectDueSelectionRequest) :
    List DueRow :=
  (((store.effects ×ˢ store.heads).filter (selectsDue request)).insertionSort
    fun left right => ¬ (orderKey left).greater (orderKey right)).take
      request.maximumCandidateCount.val

/-- Why the row of this record is due. -/
def dueReason (lifecycle : RuntimeEffectLifecycleRecord) : RuntimeEffectDueReason :=
  if lifecycle.status = .claimed then .claimExpired
  else if lifecycle.status = .retryScheduled then .retryEligible
  else .initialEnqueue

/-- The instant the head of this record is due from. -/
def dueInstant (head : RuntimeEffectLifecycleHead) : Option DateTime :=
  if dueReason head.currentLifecyclePayload = .claimExpired then head.claimExpiresAt
  else head.nextEligibleAt

/-- The candidate one row projects to, due from the given instant. -/
def candidateAt (row : DueRow) (eligibleAt : DateTime) : RuntimeEffectDueCandidate where
  effectIdentity := row.1.initialEffectEnqueuePayload.effectIdentity
  deliveryEnvelope := row.1.initialEffectEnqueuePayload.deliveryEnvelope
  currentLifecycleRecord := row.2.currentLifecyclePayload
  previousClaim := row.2.activeClaimPayload
  retryDecision := row.2.currentRetryDecisionPayload
  dueReason := dueReason row.2.currentLifecyclePayload
  eligibleAt := eligibleAt

/-- Project one row. A candidate cannot be built without its instant. -/
def dueCandidate (row : DueRow) : Except RuntimePortError RuntimeEffectDueCandidate :=
  match dueInstant row.2 with
  | none => .error ⟨.validation, "eligible_at: Input should be a valid datetime"⟩
  | some eligibleAt => .ok (candidateAt row eligibleAt)

/-- Query, project and validate the due effects of a scope. -/
def selectDue (store : RuntimeEffectStore) (request : RuntimeEffectDueSelectionRequest) :
    Except RuntimePortError (List RuntimeEffectDueCandidate) := do
  let candidates ← collectEach dueCandidate (dueRows store request)
  validateRuntimeEffectDueCandidates request candidates

/-! ## Heads ready for selection -/

/-- The projected columns of a head agree with its record. -/
structure DueReady (head : RuntimeEffectLifecycleHead) : Prop where
  status : head.currentStatus = head.currentLifecyclePayload.status
  effect : head.currentLifecyclePayload.runtimeEffectId = head.runtimeEffectId
  expiry : head.claimExpiresAt = head.activeClaimPayload.map (·.expiresAt)
  enqueued : head.currentStatus = .enqueued →
    head.activeClaimPayload = none ∧ head.currentRetryDecisionPayload = none ∧
      head.nextEligibleAt = some head.currentLifecyclePayload.recordedAt
  retryScheduled : head.currentStatus = .retryScheduled →
    (head.nextEligibleAt ≠ none → head.activeClaimPayload = none) ∧
    ∃ retry, head.currentRetryDecisionPayload = some retry ∧
      some retry.runtimeEffectRetryDecisionId =
        head.currentLifecyclePayload.runtimeEffectRetryDecisionId ∧
      retry.runtimeEffectId = head.runtimeEffectId ∧ head.nextEligibleAt = retry.eligibleAt
  claimed : head.currentStatus = .claimed →
    head.currentRetryDecisionPayload = none ∧
    ∃ claim, head.activeClaimPayload = some claim ∧
      some claim.runtimeEffectClaimId = head.currentLifecyclePayload.runtimeEffectClaimId ∧
      claim.runtimeEffectId = head.runtimeEffectId

/-- A commit is not the not-invoked evidence of a retry that will be due. -/
def schedulesWithoutClaim : CommitGuard := fun _ request =>
  request.definitelyNotInvoked ≠ none → request.lifecycleRecord.status = .retryScheduled →
    request.retryDecision.bind (·.eligibleAt) = none

instance (head : RuntimeEffectLifecycleHead) (request : RuntimeEffectLifecycleRequest) :
    Decidable (schedulesWithoutClaim head request) :=
  inferInstanceAs (Decidable (_ → _ → _))

/-- The head of an accepted enqueue is ready. -/
theorem DueReady.of_enqueue {initial : RuntimeInitialEffectEnqueue}
    (bound : InitialEnqueueBound initial) (storedAt : DateTime) :
    DueReady (initial.headRow storedAt) where
  status := rfl
  effect := bound.effect
  expiry := rfl
  enqueued _ := ⟨rfl, rfl, rfl⟩
  retryScheduled isRetry := by
    have status : (initial.headRow storedAt).currentStatus = .enqueued := bound.status
    rw [status] at isRetry
    cases isRetry
  claimed isClaimed := by
    have status : (initial.headRow storedAt).currentStatus = .enqueued := bound.status
    rw [status] at isClaimed
    cases isClaimed

/-- What the head of a commit needs of its request. -/
structure ReadyRequest (request : RuntimeEffectLifecycleRequest) : Prop where
  retryScheduled : request.lifecycleRecord.status = .retryScheduled →
    (request.retryDecision.bind (·.eligibleAt) ≠ none → request.newClaim = none) ∧
    ∃ retry, request.retryDecision = some retry ∧
      some retry.runtimeEffectRetryDecisionId =
        request.lifecycleRecord.runtimeEffectRetryDecisionId ∧
      retry.runtimeEffectId = request.effectIdentity.runtimeEffectId
  claimed : request.lifecycleRecord.status = .claimed →
    request.retryDecision = none ∧
    ∃ claim, request.newClaim = some claim ∧
      some claim.runtimeEffectClaimId = request.lifecycleRecord.runtimeEffectClaimId ∧
      claim.runtimeEffectId = request.effectIdentity.runtimeEffectId

/-- A valid claim request is ready. -/
theorem ReadyRequest.of_claim {request : RuntimeEffectClaimRequest}
    (valid : validateRuntimeEffectClaimRequest request = .ok ()) :
    ReadyRequest (.claim request) := by
  have bound := ClaimRequestBound.of_validate valid
  constructor
  · intro isRetry
    rw [show (RuntimeEffectLifecycleRequest.claim request).lifecycleRecord.status = _
      from bound.status] at isRetry
    cases isRetry
  · intro _
    exact ⟨rfl, request.claim, rfl, bound.claimId.symm, bound.claim.effect⟩

variable {head : RuntimeEffectLifecycleHead} {request : RuntimeEffectDueSelectionRequest}
  {store : RuntimeEffectStore}

/-- A valid append that meets the guard is ready. -/
theorem ReadyRequest.of_append {request : RuntimeEffectLifecycleAppendRequest}
    (valid : validateRuntimeEffectLifecycleAppendRequest request = .ok ())
    (guarded : schedulesWithoutClaim head (.append request)) :
    ReadyRequest (.append request) := by
  have bound := AppendRequestBound.of_validate valid
  constructor
  · intro (isRetry : request.append.lifecycleRecord.status = .retryScheduled)
    constructor
    · intro scheduled
      -- A scheduled retry record refers to no claim, so only not-invoked evidence carries one.
      have unreferenced : request.append.lifecycleRecord.runtimeEffectClaimId = none := by
        by_contra referenced
        have allowed := request.append.lifecycleRecord.claimEvidence.2 referenced
        rw [isRetry] at allowed
        simp [RuntimeEffectLifecycleStatus.allowedEvidence] at allowed
      refine bound.claimEvidence.absent unreferenced ?_
      rintro ⟨notInvoked, _⟩
      have present := Option.isSome_iff_ne_none.mp notInvoked
      exact scheduled (guarded present isRetry)
    · have required : request.append.lifecycleRecord.runtimeEffectRetryDecisionId ≠ none := by
        refine request.append.lifecycleRecord.retryEvidence.1 ?_
        rw [isRetry]
        simp [RuntimeEffectLifecycleStatus.requiredEvidence]
      obtain ⟨retry, supplied, named, effect⟩ := bound.retryEvidence.supplied required
      exact ⟨retry, supplied, named.symm, effect⟩
  · intro (isClaimed : request.append.lifecycleRecord.status = .claimed)
    constructor
    · refine bound.retryEvidence.absent ?_ (by simp)
      by_contra referenced
      have allowed := request.append.lifecycleRecord.retryEvidence.2 referenced
      rw [isClaimed] at allowed
      simp [RuntimeEffectLifecycleStatus.allowedEvidence] at allowed
    · have required : request.append.lifecycleRecord.runtimeEffectClaimId ≠ none := by
        refine request.append.lifecycleRecord.claimEvidence.1 ?_
        rw [isClaimed]
        simp [RuntimeEffectLifecycleStatus.requiredEvidence]
      obtain ⟨claim, supplied, named, effect⟩ := bound.claimEvidence.supplied required
      exact ⟨claim, supplied, named.symm, effect⟩

theorem ReadyRequest.of_validate {request : RuntimeEffectLifecycleRequest}
    (valid : validateRuntimeEffectLifecycleRequest request = .ok ())
    (guarded : schedulesWithoutClaim head request) :
    ReadyRequest request := by
  cases request with
  | append request => exact .of_append valid guarded
  | claim request => exact .of_claim valid

/-- A commit of a ready request leaves its head ready. -/
theorem DueReady.of_commit {request : RuntimeEffectLifecycleRequest}
    (bound : LifecycleRequestBound request) (scope : head.inScope request.effectIdentity)
    (ready : ReadyRequest request) :
    DueReady (advanceHead head request) := by
  have sameEffect : request.effectIdentity.runtimeEffectId = head.runtimeEffectId :=
    (congrArg EffectKey.runtimeEffectId scope.1).symm
  have notEnqueued := bound.successor.status_ne_enqueued
  have eligible : (advanceHead head request).nextEligibleAt =
      request.retryDecision.bind (·.eligibleAt) := if_neg notEnqueued
  refine ⟨rfl, bound.record_effect.trans sameEffect, rfl, ?_, ?_, ?_⟩
  · intro isEnqueued
    exact absurd isEnqueued notEnqueued
  · intro isRetry
    obtain ⟨unclaimed, retry, supplied, named, effect⟩ := ready.retryScheduled isRetry
    refine ⟨?_, retry, supplied, named, effect.trans sameEffect, ?_⟩
    · rw [eligible]
      exact unclaimed
    · rw [eligible, supplied, Option.bind_some]
  · intro isClaimed
    obtain ⟨unscheduled, claim, supplied, named, effect⟩ := ready.claimed isClaimed
    exact ⟨unscheduled, claim, supplied, named, effect.trans sameEffect⟩

/-- Each effect row is the row of an accepted enqueue, and each head is ready. -/
structure DueKept (store : RuntimeEffectStore) : Prop where
  keys : KeysPaired store
  effects : ∀ effect ∈ store.effects, ∃ initial storedAt, InitialEnqueueBound initial ∧
    effect = initial.effectRow storedAt
  ready : ∀ head ∈ store.heads, DueReady head

/-- Every guarded write keeps the heads ready. -/
theorem StoreStep.dueKept {store next : RuntimeEffectStore} {write : StoreWrite}
    (kept : DueKept store) (step : StoreStep store write next)
    (guarded : guardedWrite schedulesWithoutClaim store write next) : DueKept next := by
  refine ⟨step.keysPaired kept.keys, ?_, ?_⟩
  · intro effect isEffect
    cases write with
    | enqueue initial requestedAt storedAt =>
        have enqueued : InitiallyEnqueued store initial requestedAt storedAt next := step
        rw [enqueued.effects, List.mem_append, List.mem_singleton] at isEffect
        rcases isEffect with stored | rfl
        · exact kept.effects effect stored
        · exact ⟨initial, storedAt, enqueued.bound, rfl⟩
    | commit head request =>
        have committed : CommitStep store head request next := step
        rw [committed.flushed.effects] at isEffect
        exact kept.effects effect isEffect
  · intro current isHead
    cases write with
    | enqueue initial requestedAt storedAt =>
        have enqueued : InitiallyEnqueued store initial requestedAt storedAt next := step
        rw [enqueued.heads, List.mem_append, List.mem_singleton] at isHead
        rcases isHead with stored | rfl
        · exact kept.ready current stored
        · exact .of_enqueue enqueued.bound storedAt
    | commit head request =>
        have committed : CommitStep store head request next := step
        rw [committed.flushed.heads, List.mem_map] at isHead
        obtain ⟨stored, isStored, rfl⟩ := isHead
        by_cases same : stored.key = head.key
        · rw [if_pos same]
          exact .of_commit (.of_validate committed.valid) committed.scope
            (.of_validate committed.valid (guarded head request rfl))
        · rw [if_neg same]
          exact kept.ready stored isStored

/-- Heads stay ready along every run of guarded writes. -/
def dueKept : (effectStoreSystem.restrict (guardedWrite schedulesWithoutClaim)).Invariant where
  Holds := DueKept
  initial := by
    rintro _ rfl
    exact ⟨⟨List.nodup_nil, rfl⟩, fun _ isEffect => absurd isEffect List.not_mem_nil,
      fun _ isHead => absurd isHead List.not_mem_nil⟩
  preserved kept transition := transition.1.dueKept kept transition.2

/-! ## Selected rows -/

theorem DueReady.dueInstant_eq (ready : DueReady head) :
    dueInstant head = head.effective := by
  unfold dueInstant dueReason RuntimeEffectLifecycleHead.effective
  rw [ready.status]
  by_cases claimed : head.currentLifecyclePayload.status = .claimed
  · simp [claimed]
  · by_cases retry : head.currentLifecyclePayload.status = .retryScheduled <;> simp [claimed, retry]

/-- The instant that orders a selected row has come. -/
theorem selectsDue.reached {row : DueRow} (selected : selectsDue request row) :
    ∃ eligibleAt, row.2.effective = some eligibleAt ∧ eligibleAt ≤ request.observedAt := by
  obtain ⟨_, _, _, _, ⟨status, eligibleAt, isEligible, reached⟩ |
    ⟨status, eligibleAt, isEligible, reached⟩⟩ := selected
  · refine ⟨eligibleAt, ?_, reached⟩
    have unclaimed : row.2.currentStatus ≠ .claimed := by
      intro claimed
      rw [claimed] at status
      simp at status
    rw [RuntimeEffectLifecycleHead.effective, if_neg unclaimed]
    exact isEligible
  · refine ⟨eligibleAt, ?_, reached⟩
    rw [RuntimeEffectLifecycleHead.effective, if_pos status]
    exact isEligible

/-- The candidate of a selected row carries the evidence of its reason. -/
theorem DueReady.evidenceMatches {effect : RuntimeEffect} (ready : DueReady head)
    (sameEffect : head.runtimeEffectId =
      effect.initialEffectEnqueuePayload.effectIdentity.runtimeEffectId)
    (status : head.currentStatus ∈ [.enqueued, .retryScheduled, .claimed]) {eligibleAt : DateTime}
    (eligible : head.effective = some eligibleAt) :
    (candidateAt (effect, head) eligibleAt).evidenceMatches := by
  have recorded := ready.status
  simp only [List.mem_cons, List.not_mem_nil, or_false] at status
  rcases status with status | status | status
  · -- An enqueued head is due from its own recording.
    obtain ⟨unclaimed, unscheduled, fromRecording⟩ := ready.enqueued status
    rw [status] at recorded
    have instant : eligibleAt = head.currentLifecyclePayload.recordedAt := by
      simpa [RuntimeEffectLifecycleHead.effective, status, fromRecording] using eligible.symm
    have reason : dueReason head.currentLifecyclePayload = .initialEnqueue := by
      simp [dueReason, ← recorded]
    simp only [RuntimeEffectDueCandidate.evidenceMatches, candidateAt, reason]
    exact ⟨recorded.symm, unclaimed, unscheduled, instant⟩
  · -- A scheduled retry is due from its decision, and carries no claim once it is.
    obtain ⟨unclaimed, retry, supplied, named, effect, decided⟩ := ready.retryScheduled status
    rw [status] at recorded
    have next : head.nextEligibleAt = some eligibleAt := by
      simpa [RuntimeEffectLifecycleHead.effective, status] using eligible
    have reason : dueReason head.currentLifecyclePayload = .retryEligible := by
      simp [dueReason, ← recorded]
    have free := unclaimed (next ▸ Option.some_ne_none eligibleAt)
    simp only [RuntimeEffectDueCandidate.evidenceMatches, candidateAt, reason]
    exact ⟨recorded.symm, free, retry, supplied, named, effect.trans sameEffect,
      decided.symm.trans next⟩
  · -- A claimed head is due from the expiry of its claim.
    obtain ⟨unscheduled, claim, supplied, named, effect⟩ := ready.claimed status
    rw [status] at recorded
    have expires : claim.expiresAt = eligibleAt := by
      simpa [RuntimeEffectLifecycleHead.effective, status, ready.expiry, supplied] using eligible
    have reason : dueReason head.currentLifecyclePayload = .claimExpired := by
      simp [dueReason, ← recorded]
    simp only [RuntimeEffectDueCandidate.evidenceMatches, candidateAt, reason]
    exact ⟨recorded.symm, unscheduled, claim, supplied, named, effect.trans sameEffect, expires⟩

/-- A selected row projects to a candidate that passes its checks and keeps its
place in the order. -/
theorem DueKept.candidate (kept : DueKept store) {row : DueRow} (isEffect : row.1 ∈ store.effects)
    (isHead : row.2 ∈ store.heads) (selected : selectsDue request row) :
    ∃ candidate, dueCandidate row = .ok candidate ∧
      validateDueCandidate request candidate = .ok () ∧ candidate.key = orderKey row := by
  obtain ⟨effect, head⟩ := row
  obtain ⟨initial, storedAt, bound, rfl⟩ := kept.effects effect isEffect
  have ready := kept.ready head isHead
  obtain ⟨eligibleAt, eligible, reached⟩ := selected.reached
  obtain ⟨sameKey, tenant, organization, classification, due⟩ := selected
  have sameEffect : head.runtimeEffectId = initial.effectIdentity.runtimeEffectId :=
    (congrArg EffectKey.runtimeEffectId sameKey).symm
  have status : head.currentStatus ∈ [.enqueued, .retryScheduled, .claimed] := by
    rcases due with ⟨status, _⟩ | ⟨status, _⟩
    · simp only [List.mem_cons, List.not_mem_nil, or_false] at status ⊢
      exact status.elim .inl (fun retry => .inr (.inl retry))
    · simp [show head.currentStatus = .claimed from status]
  refine ⟨candidateAt (initial.effectRow storedAt, head) eligibleAt, ?_, ?_, ?_⟩
  · simp only [dueCandidate, ready.dueInstant_eq, eligible]
  · simp only [validateDueCandidate, bind_eq_ok_iff, rejectIf_eq_ok_iff, exists_unit_iff,
      validateRuntimeEffectDeliveryEnvelope_eq_ok_iff, not_not, not_or, gt_iff_lt]
    exact ⟨⟨bound.envelopeIdentity, bound.inputSchema⟩, ⟨tenant, organization, classification⟩,
      ready.effect.trans sameEffect, not_lt.mpr reached,
      ready.evidenceMatches sameEffect status eligible⟩
  · simp only [RuntimeEffectDueCandidate.key, orderKey, eligible, Option.getD_some]
    rfl

theorem mem_dueRows {row : DueRow} (isRow : row ∈ dueRows store request) :
    row.1 ∈ store.effects ∧ row.2 ∈ store.heads ∧ selectsDue request row := by
  have sorted := List.mem_of_mem_take isRow
  rw [List.mem_insertionSort, List.mem_filter, decide_eq_true_eq] at sorted
  obtain ⟨isPair, selected⟩ := sorted
  have pair := List.mem_product.mp (show (row.1, row.2) ∈ _ from isPair)
  exact ⟨pair.1, pair.2, selected⟩

/-- Two rows the query selects for one effect are the same row. -/
theorem selected_inj (keys : KeysPaired store) {left right : DueRow}
    (leftStored : left.1 ∈ store.effects ∧ left.2 ∈ store.heads ∧ selectsDue request left)
    (rightStored : right.1 ∈ store.effects ∧ right.2 ∈ store.heads ∧ selectsDue request right)
    (same : orderKey left = orderKey right) : left = right := by
  obtain ⟨leftEffect, leftHead, leftSelected⟩ := leftStored
  obtain ⟨rightEffect, rightHead, rightSelected⟩ := rightStored
  have sameId : left.1.runtimeEffectId = right.1.runtimeEffectId := congrArg Prod.snd same
  have sameKey : left.1.key = right.1.key := by
    simp only [RuntimeEffect.key, EffectKey.mk.injEq]
    exact ⟨leftSelected.2.1.trans rightSelected.2.1.symm,
      leftSelected.2.2.1.trans rightSelected.2.2.1.symm, sameId⟩
  have effectKeys : (store.effects.map (·.key)).Nodup := keys.paired ▸ keys.nodup
  have sameEffect : left.1 = right.1 :=
    List.inj_on_of_nodup_map effectKeys leftEffect rightEffect sameKey
  have sameHead : left.2 = right.2 := by
    refine keys.head_unique leftHead rightHead ?_
    rw [← leftSelected.1, ← rightSelected.1]
    exact sameKey
  exact Prod.ext sameEffect sameHead

theorem dueRows_inj (keys : KeysPaired store) {left right : DueRow}
    (isLeft : left ∈ dueRows store request) (isRight : right ∈ dueRows store request)
    (same : orderKey left = orderKey right) : left = right :=
  selected_inj keys (mem_dueRows isLeft) (mem_dueRows isRight) same

theorem nodup_orderKeys (keys : KeysPaired store) (request : RuntimeEffectDueSelectionRequest) :
    ((dueRows store request).map orderKey).Nodup := by
  have effectKeys : (store.effects.map (·.key)).Nodup := keys.paired ▸ keys.nodup
  have pairs : (store.effects ×ˢ store.heads).Nodup :=
    List.Nodup.product (List.Nodup.of_map _ effectKeys) (List.Nodup.of_map _ keys.nodup)
  have rows : (dueRows store request).Nodup :=
    ((List.perm_insertionSort _ _).nodup_iff.mpr (pairs.filter _)).sublist
      (List.take_sublist _ _)
  exact rows.map_on fun left isLeft right isRight => dueRows_inj keys isLeft isRight

/-- Keys in order have no adjacent pair out of order. -/
theorem not_outOfOrder {keys : List DueKey}
    (ordered : keys.Pairwise fun left right => ¬ left.greater right) : ¬ outOfOrder keys := by
  induction keys with
  | nil => exact id
  | cons first rest ih =>
      cases rest with
      | nil => exact id
      | cons second rest =>
          rw [List.pairwise_cons] at ordered
          rintro (greater | later)
          · exact ordered.1 second (List.mem_cons_self ..) greater
          · exact ih ordered.2 later

theorem DueKey.total (left right : DueKey) : ¬ left.greater right ∨ ¬ right.greater left := by
  unfold DueKey.greater DateTime UUID at *
  omega

theorem DueKey.trichotomy (left right : DueKey) :
    left = right ∨ left.greater right ∨ right.greater left := by
  obtain ⟨leftAt, leftId⟩ := left
  obtain ⟨rightAt, rightId⟩ := right
  simp only [DueKey.greater, Prod.mk.injEq]
  unfold DateTime UUID at *
  omega

theorem DueKey.trans {first second third : DueKey} (earlier : ¬ first.greater second)
    (later : ¬ second.greater third) : ¬ first.greater third := by
  unfold DueKey.greater DateTime UUID at *
  omega

theorem ordered_insertionSort (rows : List DueRow) :
    (rows.insertionSort fun left right => ¬ (orderKey left).greater (orderKey right)).Pairwise
      fun left right => ¬ (orderKey left).greater (orderKey right) := by
  have total : Std.Total fun left right : DueRow =>
      ¬ (orderKey left).greater (orderKey right) :=
    ⟨fun left right => DueKey.total (orderKey left) (orderKey right)⟩
  have transitive : IsTrans DueRow fun left right =>
      ¬ (orderKey left).greater (orderKey right) :=
    ⟨fun _ _ _ earlier later => DueKey.trans earlier later⟩
  exact List.pairwise_insertionSort _ _

theorem ordered_orderKeys (store : RuntimeEffectStore)
    (request : RuntimeEffectDueSelectionRequest) :
    ((dueRows store request).map orderKey).Pairwise fun left right => ¬ left.greater right := by
  rw [List.pairwise_map]
  exact (ordered_insertionSort _).sublist (List.take_sublist _ _)

/-- Over ready heads every due selection succeeds. -/
theorem DueKept.selectDue (kept : DueKept store) (request : RuntimeEffectDueSelectionRequest) :
    Accepted (selectDue store request) := by
  obtain ⟨candidates, projected, checked, keys⟩ := collectEach_of_forall
    fun row (isRow : row ∈ dueRows store request) =>
      kept.candidate (mem_dueRows isRow).1 (mem_dueRows isRow).2.1 (mem_dueRows isRow).2.2
  have bounded : candidates.length ≤ request.maximumCandidateCount.val := by
    have sameLength := congrArg List.length keys
    rw [List.length_map, List.length_map] at sameLength
    rw [sameLength]
    exact List.length_take_le _ _
  refine ⟨candidates, ?_⟩
  simp only [Runtime.selectDue, validateRuntimeEffectDueCandidates, bind_eq_ok_iff,
    rejectIf_eq_ok_iff, exists_unit_iff, pure_eq_ok_iff, checkEach_eq_ok_iff, not_lt, gt_iff_lt,
    not_or, not_not]
  refine ⟨candidates, projected, bounded, ⟨?_, ?_⟩, checked, rfl⟩
  · rw [keys]
    exact nodup_orderKeys kept.keys request
  · rw [keys]
    exact not_outOfOrder (ordered_orderKeys store request)

/-- In every interleaving that commits no claim-carrying retry that will be due,
every due selection of every scope succeeds. -/
theorem selectDue_accepted {state : LifecycleState}
    (reachable : (guardedLifecycle schedulesWithoutClaim).Reachable state)
    (request : RuntimeEffectDueSelectionRequest) : Accepted (selectDue state.store request) := by
  have kept : DueKept state.store := dueKept.of_reachable (store_reachable reachable)
  exact kept.selectDue request

namespace Sample

theorem tenCandidates : 1 ≤ 10 ∧ 10 ≤ 100 := by decide

/-- A later scan of the sample scope. -/
def dueRequest : RuntimeEffectDueSelectionRequest where
  runtimeEffectDueSelectionRequestId := 64
  contractVersion := contractVersion
  tenantId := 1
  organizationId := 2
  classification := .internal
  clockReference := "clock"
  observedAt := 40
  maximumCandidateCount := ⟨10, tenCandidates⟩
  requestedAt := 40

/-- The retry that is scheduled when the worker is cancelled before it invokes the
adapter. -/
def retryDecision : RuntimeEffectRetryDecision where
  runtimeEffectRetryDecisionId := 91
  runtimeEffectId := 3
  priorAttemptId := 81
  nextAttemptId := some 82
  decisionStatus := .approved
  retryPolicyReference := "retry"
  maximumAttemptCount := .nearest 3
  completedAttemptCount := .nearest 1
  priorCertainty := .definitelyNotDelivered
  effectFingerprintDigestReference := "fingerprint"
  runtimeAuthorityBundleId := 19
  runtimeAdmissionDecisionId := 20
  permitReferenceIds := [22]
  sideEffectLevel := .internalWrite
  automatic := false
  eligibleAt := some 30
  decidedAt := 12
  retryDecisionDigestReference := "retry-1"
  orderedPermits := outbox.orderedPermits

/-- The revision the scheduled retry is recorded in. -/
def retryRecord : RuntimeEffectLifecycleRecord where
  runtimeEffectLifecycleRecordId := 34
  runtimeEffectId := 3
  lifecycleRevision := .nearest 4
  status := .retryScheduled
  previousLifecycleRecordId := some 33
  previousLifecycleDigestReference := some "revision-3"
  runtimeEffectDeliveryAttemptId := some 81
  runtimeEffectRetryDecisionId := some 91
  recordedAt := 12
  lifecycleDigestReference := "revision-4"

/-- The append call with the not-invoked evidence and its retry. -/
def notInvokedRequest : RuntimeEffectLifecycleRequest :=
  .append
    { runtimeEffectLifecycleAppendRequestId := 63
      contractVersion := contractVersion
      append :=
        { effectIdentity := identity
          previousLifecycleRecord := deliveringRecord
          lifecycleRecord := retryRecord
          claim := some claim
          attempt := some attempt
          definitelyNotInvoked := some
            { runtimeEffectDefinitelyNotInvokedId := 92
              runtimeEffectId := 3
              runtimeEffectDeliveryAttemptId := 81
              runtimeEffectClaimId := 71
              leaseId := 72
              deliveringLifecycleRecordId := 33
              deliveringLifecycleRevision := .nearest 3
              reason := .cancelledAfterDelivering
              cancellationObservationId := some 93
              clockReference := "clock"
              tenantId := 1
              organizationId := 2
              classification := .internal
              failureCode := .cancelled
              failureReference := "cancelled"
              observedAt := 12
              factDigestReference := "not-invoked-1" }
          retryDecision := some retryDecision
          receiptFact := receiptFact 54 retryRecord }
      clockReference := "clock"
      requestedAt := 12 }

/-- The whole run: enqueue, claim, delivering, not invoked. -/
def notInvokedRun : List LifecycleEvent := deliveringRun ++ call 2 notInvokedRequest

end Sample

/-- While the sample effect is claimed, its scope can be scanned. -/
theorem selectDue_accepted_claimed :
    ∃ state, LifecycleState.run schedulesWithoutClaim {} Sample.claimedRun = some state ∧
      Accepted (selectDue state.store Sample.dueRequest) := by
  have ran : (LifecycleState.run schedulesWithoutClaim {} Sample.claimedRun).isSome := by decide
  exact ⟨_, (Option.some_get ran).symm,
    selectDue_accepted (reachable_of_run ran) Sample.dueRequest⟩

/-- After the not-invoked append of the sample run, every scan of its scope that
reaches the retry raises. -/
theorem selectDue_poisoned :
    ∃ state, lifecycleSystem.Reachable state ∧
      LifecycleState.run (fun _ _ => True) {} Sample.notInvokedRun = some state ∧
      selectDue state.store Sample.dueRequest =
        .error ⟨.reference, "due candidate reason or evidence differs"⟩ := by
  have ran : (LifecycleState.run (fun _ _ => True) {} Sample.notInvokedRun).isSome := by decide
  have raised : selectDue ((LifecycleState.run (fun _ _ => True) {} Sample.notInvokedRun).get
      ran).store Sample.dueRequest =
        .error ⟨.reference, "due candidate reason or evidence differs"⟩ := by
    decide +revert
  exact ⟨_, (reachable_of_run ran).of_restrict, (Option.some_get ran).symm, raised⟩

end PolicyOS.Runtime
