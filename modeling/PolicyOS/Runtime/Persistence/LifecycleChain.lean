import PolicyOS.Runtime.Persistence.LifecycleSystem

/-!
# Exactly-once lifecycle chain

What holds of the lifecycle store under any interleaving of calls: revisions are
contiguous and linked, the head shows the last one, a request identifier commits
once, a repeated request is answered with its original receipt, and a terminal
effect stays as it is. Request lookups are not scoped, so the answers to repeated
requests are stated for the commits of one tenant and organization.
-/

namespace PolicyOS.Runtime

open Foundation

/-- Commits are of effects of one tenant and organization. -/
def commitsOf (tenantId organizationId : UUID) : CommitGuard := fun _ request =>
  request.effectIdentity.tenantId = tenantId ∧
  request.effectIdentity.organizationId = organizationId

instance (tenantId organizationId : UUID) (head : RuntimeEffectLifecycleHead)
    (request : RuntimeEffectLifecycleRequest) :
    Decidable (commitsOf tenantId organizationId head request) :=
  inferInstanceAs (Decidable (_ ∧ _))

/-- What is known of a stored request: it was valid, and of the scope. -/
def ScopedRequest (tenantId organizationId : UUID) (request : RuntimeEffectLifecycleRequest) :
    Prop :=
  validateRuntimeEffectLifecycleRequest request = .ok () ∧
  request.effectIdentity.tenantId = tenantId ∧
  request.effectIdentity.organizationId = organizationId

theorem storeKept_of_reachable {tenantId organizationId : UUID} {state : LifecycleState}
    (reachable : (guardedLifecycle (commitsOf tenantId organizationId)).Reachable state) :
    StoreKept (ScopedRequest tenantId organizationId) state.store :=
  (storeKept (commitsOf tenantId organizationId)
    (fun _ _ inScope valid => ⟨valid, inScope⟩)).of_reachable (store_reachable reachable)

/-! ## Request identifiers -/

variable {request : RuntimeEffectLifecycleRequest} {store : RuntimeEffectStore}
  {row : RuntimeEffectLifecycleRevision} {head : RuntimeEffectLifecycleHead}
  {last : RuntimeEffectLifecycleRevision}

/-- Rows of one scope that answer to one identifier violate its unique index. -/
theorem conflicts_of_answers {tenantId organizationId : UUID}
    {earlier later : RuntimeEffectLifecycleRevision}
    (earlierWritten : WrittenBy (ScopedRequest tenantId organizationId) earlier)
    (laterWritten : WrittenBy (ScopedRequest tenantId organizationId) later)
    (earlierAnswers : earlier.answers request) (laterAnswers : later.answers request) :
    later.conflictsWith earlier := by
  obtain ⟨first, ⟨_, firstTenant, firstOrganization⟩, rfl, _⟩ :=
    earlierWritten.of_answers earlierAnswers
  obtain ⟨second, ⟨_, secondTenant, secondOrganization⟩, rfl, _⟩ :=
    laterWritten.of_answers laterAnswers
  refine .inr (.inl ⟨secondTenant.trans firstTenant.symm,
    secondOrganization.trans firstOrganization.symm, ?_⟩)
  cases request with
  | append request =>
      refine .inr (.inl ⟨?_, laterAnswers.trans earlierAnswers.symm⟩)
      rw [laterAnswers]
      exact Option.some_ne_none _
  | claim request =>
      refine .inr (.inr ⟨?_, laterAnswers.trans earlierAnswers.symm⟩)
      rw [laterAnswers]
      exact Option.some_ne_none _

theorem answers_length_le {tenantId organizationId : UUID}
    (rows : RowsKept (ScopedRequest tenantId organizationId) store)
    (request : RuntimeEffectLifecycleRequest) :
    (store.revisions.filter (·.answers request)).length ≤ 1 := by
  refine rows.free.length_filter_le ?_
  intro earlier isEarlier later isLater earlierAnswers laterAnswers
  exact conflicts_of_answers (rows.written earlier isEarlier) (rows.written later isLater)
    (of_decide_eq_true earlierAnswers) (of_decide_eq_true laterAnswers)

theorem scalarOneOrNone_of_mem {Row : Type} {rows : List Row} {row : Row}
    (single : rows.length ≤ 1) (present : row ∈ rows) :
    scalarOneOrNone rows = .ok (some row) := by
  rcases rows with _ | ⟨first, _ | ⟨second, rest⟩⟩
  · cases present
  · rw [List.mem_singleton] at present
    rw [present, scalarOneOrNone]
  · simp at single

theorem scalarOneOrNone_accepted {Row : Type} {rows : List Row} (single : rows.length ≤ 1) :
    ∃ found, scalarOneOrNone rows = .ok found := by
  rcases rows with _ | ⟨first, _ | ⟨second, rest⟩⟩
  · exact ⟨none, rfl⟩
  · exact ⟨some first, rfl⟩
  · simp at single

theorem existing_of_answers {tenantId organizationId : UUID}
    (rows : RowsKept (ScopedRequest tenantId organizationId) store) (stored : row ∈ store.revisions)
    (answers : row.answers request) :
    existing store request = .ok (some row) := by
  refine scalarOneOrNone_of_mem (answers_length_le rows request) ?_
  rw [List.mem_filter, decide_eq_true_eq]
  exact ⟨stored, answers⟩

/-! ## Repeated requests -/

theorem revisionOf_answers (request : RuntimeEffectLifecycleRequest) (storedAt : DateTime) :
    (revisionOf request storedAt).answers request := by
  cases request <;> rfl

/-- An identical request is answered with the receipt it was given. -/
theorem exactReplay_same (request : RuntimeEffectLifecycleRequest) :
    exactReplay (revisionOf request request.requestedAt) request =
      .ok ⟨.exactReplay, ⟨request.receiptFact, request.requestedAt⟩⟩ := by
  cases request with
  | append request =>
      simp only [exactReplay, revisionOf, bind_eq_ok_iff, pure_eq_ok_iff, exists_unit_iff,
        validateRuntimeEffectLifecycleReplay, rejectIf_eq_ok_iff, not_not]
      exact ⟨trivial, rfl⟩
  | claim request =>
      simp only [exactReplay, revisionOf, bind_eq_ok_iff, pure_eq_ok_iff, exists_unit_iff,
        rejectIf_eq_ok_iff, not_not]
      exact ⟨trivial, rfl⟩

/-- The conflict a differing repetition is answered with. -/
def replayConflict : RuntimeEffectLifecycleRequest → RuntimePortError
  | .append _ =>
      ⟨.effectConflict, "lifecycle revision digest or immutable append facts differ"⟩
  | .claim _ => ⟨.effectConflict, "claim replay immutable facts differ"⟩

/-- A different request under the same identifier is a conflict. -/
theorem exactReplay_differs {stored request : RuntimeEffectLifecycleRequest}
    (answers : (revisionOf stored stored.requestedAt).answers request)
    (different : stored ≠ request) :
    exactReplay (revisionOf stored stored.requestedAt) request =
      .error (replayConflict request) := by
  cases request with
  | append request =>
      cases stored with
      | claim stored => cases answers
      | append stored =>
          have unequal : stored ≠ request := fun same => different (same ▸ rfl)
          simp only [exactReplay, revisionOf, validateRuntimeEffectLifecycleReplay, rejectIf,
            if_pos unequal]
          rfl
  | claim request =>
      cases stored with
      | append stored => cases answers
      | claim stored =>
          have unequal : stored ≠ request := fun same => different (same ▸ rfl)
          simp only [exactReplay, revisionOf, rejectIf, if_pos unequal]
          rfl

/-- The locked read of a stored head answers from the revision found. -/
theorem lockedRead_of_existing (keys : KeysPaired store)
    (found : existing store request = .ok (some row)) :
    lockedRead store request = (exactReplay row request).map LockedRead.replay := by
  have single : (store.heads.filter (·.inScope request.effectIdentity)).length ≤ 1 := by
    have nodup : Unconflicted (fun later earlier : RuntimeEffectLifecycleHead =>
        later.key = earlier.key) store.heads := by
      refine (List.pairwise_map.mp keys.nodup).imp ?_
      intro earlier later different same
      exact different same.symm
    refine nodup.length_filter_le ?_
    intro earlier _ later _ isEarlier isLater
    exact (of_decide_eq_true isLater).1.trans (of_decide_eq_true isEarlier).1.symm
  obtain ⟨head, selected⟩ := scalarOneOrNone_accepted single
  rw [lockedRead, selected, found]
  change (exactReplay row request >>= fun result => pure (LockedRead.replay result)) = _
  cases exactReplay row request <;> rfl

/-- A committed request is answered again, before and under the row lock, with
its original receipt. -/
theorem answer_of_committed {tenantId organizationId : UUID}
    (kept : StoreKept (ScopedRequest tenantId organizationId) store)
    (stored : row ∈ store.revisions) (payload : row.writeRequestPayload = .lifecycle request) :
    submitPhase store request =
        .answered (.ok ⟨.exactReplay, ⟨request.receiptFact, request.requestedAt⟩⟩) ∧
      lockPhase store request =
        .answered (.ok ⟨.exactReplay, ⟨request.receiptFact, request.requestedAt⟩⟩) := by
  obtain ⟨⟨valid, _⟩, rfl⟩ := (kept.rows.written row stored).of_payload payload
  have found := existing_of_answers kept.rows stored (revisionOf_answers request _)
  constructor
  · rw [submitPhase, valid, firstLookup, found]
    simp only [bind, Except.bind, exactReplay_same]
    rfl
  · rw [lockPhase, lockedRead_of_existing kept.keys found, exactReplay_same]
    rfl

/-- A valid request under a committed identifier that differs is refused, before
and under the row lock. -/
theorem answer_of_conflicting {tenantId organizationId : UUID}
    (kept : StoreKept (ScopedRequest tenantId organizationId) store)
    (stored : row ∈ store.revisions) (answers : row.answers request)
    (different : row.writeRequestPayload ≠ .lifecycle request)
    (valid : validateRuntimeEffectLifecycleRequest request = .ok ()) :
    submitPhase store request = .answered (.error (replayConflict request)) ∧
      lockPhase store request = .answered (.error (replayConflict request)) := by
  have found := existing_of_answers kept.rows stored answers
  obtain ⟨original, _, rfl, answers⟩ := (kept.rows.written row stored).of_answers answers
  have unequal : original ≠ request := fun same => different (same ▸ rfl)
  constructor
  · rw [submitPhase, valid, firstLookup, found]
    simp only [bind, Except.bind, exactReplay_differs answers unequal]
  · rw [lockPhase, lockedRead_of_existing kept.keys found, exactReplay_differs answers unequal]
    rfl

/-! ## The chain -/

/-- Every effect's revisions are contiguous and linked, and its one head shows the
last of them. -/
structure ChainKept (store : RuntimeEffectStore) : Prop where
  heads : store.heads.map (·.key) = store.effects.map (·.key)
  uniqueHeads : (store.heads.map (·.key)).Nodup
  contiguous : ∀ head ∈ store.heads, (store.revisionsOf head.key).map (·.lifecycleRevision) =
    List.range' 1 (store.revisionsOf head.key).length
  linked : ∀ head ∈ store.heads, (store.revisionsOf head.key).IsChain LinksTo
  shown : ∀ head ∈ store.heads, ∃ last, (store.revisionsOf head.key).getLast? = some last ∧
    Represents head last

theorem ChainKept.of_storeKept {Property : RuntimeEffectLifecycleRequest → Prop}
    (kept : StoreKept Property store) : ChainKept store where
  heads := kept.keys.paired
  uniqueHeads := kept.keys.nodup
  contiguous head stored :=
    (kept.logs.logs head stored).log.positions (fun origin => origin.revision)
      (fun link => link.revision)
  linked head stored := (kept.logs.logs head stored).log.linked
  shown head stored := (kept.logs.logs head stored).shown

/-- Each request identifier commits at most one revision and keeps its answer. -/
structure RequestsKept (store : RuntimeEffectStore) : Prop where
  once : ∀ request : RuntimeEffectLifecycleRequest,
    (store.revisions.filter (·.answers request)).length ≤ 1
  replayed : ∀ row ∈ store.revisions, ∀ request, row.writeRequestPayload = .lifecycle request →
    submitPhase store request =
        .answered (.ok ⟨.exactReplay, ⟨request.receiptFact, request.requestedAt⟩⟩) ∧
      lockPhase store request =
        .answered (.ok ⟨.exactReplay, ⟨request.receiptFact, request.requestedAt⟩⟩)
  conflicting : ∀ row ∈ store.revisions, ∀ request, row.answers request →
    row.writeRequestPayload ≠ .lifecycle request →
    validateRuntimeEffectLifecycleRequest request = .ok () →
    submitPhase store request = .answered (.error (replayConflict request)) ∧
      lockPhase store request = .answered (.error (replayConflict request))

theorem RequestsKept.of_storeKept {tenantId organizationId : UUID}
    (kept : StoreKept (ScopedRequest tenantId organizationId) store) : RequestsKept store where
  once request := answers_length_le kept.rows request
  replayed _ stored _ payload := answer_of_committed kept stored payload
  conflicting _ stored _ answers different valid :=
    answer_of_conflicting kept stored answers different valid

/-- A terminal effect gains no revision in any later run. -/
theorem terminal_of_steps {guard : CommitGuard} {state final : LifecycleState}
    {events : List LifecycleEvent} (held : LocksHeld state)
    (steps : (guardedLifecycle guard).Steps state events final) (stored : head ∈ state.store.heads)
    (terminal : head.currentStatus ∈ RuntimeEffectLifecycleStatus.terminal) :
    final.store.revisionsOf head.key = state.store.revisionsOf head.key := by
  have kept := TransitionSystem.Steps.related
    (fun earlier later : LifecycleState => head ∈ earlier.store.heads →
      head ∈ later.store.heads ∧
        later.store.revisionsOf head.key = earlier.store.revisionsOf head.key)
    (fun _ present => ⟨present, rfl⟩)
    (fun first second present =>
      ⟨(second (first present).1).1, (second (first present).1).2.trans (first present).2⟩)
    (locksHeld.restrict (guardedFlush guard)) ?_ held steps
  · exact (kept stored).2
  · intro state event next held step present
    rcases LocksHeld.storeStep held step with same | ⟨write, atomic, _⟩
    · rw [same]
      exact ⟨present, rfl⟩
    · exact atomic.terminal_kept held.keys present terminal

/-- Under any interleaving of the calls on one scope's effects: the chains and the
requests are kept, and along every later run committed revisions survive and
terminal effects gain none. -/
theorem lifecycle_exactlyOnceChain {tenantId organizationId : UUID} {state : LifecycleState}
    (reachable : (guardedLifecycle (commitsOf tenantId organizationId)).Reachable state) :
    ChainKept state.store ∧ RequestsKept state.store ∧
      ∀ events final,
        (guardedLifecycle (commitsOf tenantId organizationId)).Steps state events final →
        state.store.revisions <+: final.store.revisions ∧
        ∀ head ∈ state.store.heads,
          head.currentStatus ∈ RuntimeEffectLifecycleStatus.terminal →
          final.store.revisionsOf head.key = state.store.revisionsOf head.key := by
  have kept := storeKept_of_reachable reachable
  have held := locksHeld.of_reachable reachable.of_restrict
  refine ⟨.of_storeKept kept, .of_storeKept kept, ?_⟩
  intro events final steps
  exact ⟨revisions_prefix_of_steps held steps,
    fun head stored terminal => terminal_of_steps held steps stored terminal⟩

/-- The chain of the sample effect once its claim has committed. -/
theorem lifecycle_exactlyOnceChain_claimed :
    ∃ state, LifecycleState.run (commitsOf 1 2) {} Sample.claimedRun = some state ∧
      state.store.revisions.length = 2 ∧ ChainKept state.store ∧ RequestsKept state.store := by
  have ran : (LifecycleState.run (commitsOf 1 2) {} Sample.claimedRun).isSome := by decide
  have size : ((LifecycleState.run (commitsOf 1 2) {} Sample.claimedRun).get
      ran).store.revisions.length = 2 := by
    decide +revert
  have chain := lifecycle_exactlyOnceChain (reachable_of_run ran)
  exact ⟨_, (Option.some_get ran).symm, size, chain.1, chain.2.1⟩

/-!
# Lease exclusivity

What consecutive revisions of one effect keep of a lease: its claim until it
expires, its claim into delivery, and its attempt out of delivery. Claim requests
are checked against the locked head for this. Append requests are not, so a run
keeps every lease exactly when each append it commits does so of itself.
-/

/-- Outcomes that must be of the attempt under delivery. -/
def deliveryOutcomes : List RuntimeEffectLifecycleStatus :=
  [.delivered, .ambiguous, .retryScheduled]

/-- One revision keeps the lease of the revision it follows. -/
structure LeaseContinuous (earlier later : RuntimeEffectLifecycleRevision) : Prop where
  exclusive : earlier.lifecycleStatus = .claimed → ∀ held ∈ earlier.claimPayload,
    ∀ taken ∈ later.claimPayload, taken.runtimeEffectClaimId ≠ held.runtimeEffectClaimId →
      held.expiresAt ≤ later.storedAt
  claim : later.lifecycleStatus = .delivering → earlier.lifecycleStatus = .claimed ∧
    later.lifecycleRecordPayload.runtimeEffectClaimId =
      earlier.lifecycleRecordPayload.runtimeEffectClaimId
  attempt : earlier.lifecycleStatus = .delivering → later.lifecycleStatus ∈ deliveryOutcomes →
    later.lifecycleRecordPayload.runtimeEffectDeliveryAttemptId =
      earlier.lifecycleRecordPayload.runtimeEffectDeliveryAttemptId

instance (earlier later : RuntimeEffectLifecycleRevision) :
    Decidable (LeaseContinuous earlier later) :=
  decidable_of_iff
    ((earlier.lifecycleStatus = .claimed → ∀ held ∈ earlier.claimPayload,
        ∀ taken ∈ later.claimPayload, taken.runtimeEffectClaimId ≠ held.runtimeEffectClaimId →
          held.expiresAt ≤ later.storedAt) ∧
      (later.lifecycleStatus = .delivering → earlier.lifecycleStatus = .claimed ∧
        later.lifecycleRecordPayload.runtimeEffectClaimId =
          earlier.lifecycleRecordPayload.runtimeEffectClaimId) ∧
      (earlier.lifecycleStatus = .delivering → later.lifecycleStatus ∈ deliveryOutcomes →
        later.lifecycleRecordPayload.runtimeEffectDeliveryAttemptId =
          earlier.lifecycleRecordPayload.runtimeEffectDeliveryAttemptId))
    ⟨fun ⟨exclusive, claim, attempt⟩ => ⟨exclusive, claim, attempt⟩,
      fun kept => ⟨kept.exclusive, kept.claim, kept.attempt⟩⟩

/-- An append brings another claim onto a claimed head only after the active one has
expired, begins delivery on a claimed head under its claim, and ends delivery with
an outcome of the attempt under delivery. The head is the locked one: the record
the request says it follows is compared with it by identifiers only. -/
def keepsLease (head : RuntimeEffectLifecycleHead) : RuntimeEffectLifecycleRequest → Prop
  | .claim _ => True
  | .append request =>
      let current := request.append.lifecycleRecord
      let shown := head.currentLifecyclePayload
      (head.currentStatus = .claimed → ∀ held ∈ head.activeClaimPayload,
        ∀ taken ∈ request.append.claim, taken.runtimeEffectClaimId ≠ held.runtimeEffectClaimId →
          held.expiresAt ≤ request.requestedAt) ∧
      (current.status = .delivering → head.currentStatus = .claimed ∧
        current.runtimeEffectClaimId = shown.runtimeEffectClaimId) ∧
      (head.currentStatus = .delivering → current.status ∈ deliveryOutcomes →
        current.runtimeEffectDeliveryAttemptId = shown.runtimeEffectDeliveryAttemptId)

instance (head : RuntimeEffectLifecycleHead) (request : RuntimeEffectLifecycleRequest) :
    Decidable (keepsLease head request) :=
  match request with
  | .claim _ => inferInstanceAs (Decidable True)
  | .append _ => inferInstanceAs (Decidable (_ ∧ _ ∧ _))

/-- A claim accepted on a claimed head waits for the active claim to expire. -/
theorem expired_of_claim {request : RuntimeEffectClaimRequest}
    (accepts : HeadAccepts head (.claim request)) (shown : Represents head last)
    {held : RuntimeEffectClaim} (active : held ∈ last.claimPayload) :
    held.expiresAt ≤ request.requestedAt := by
  have checked := accepts.claim
  rw [Option.mem_def] at active
  have activeId : head.activeClaimId = some held.runtimeEffectClaimId := by
    rw [← shown.claimId, active, Option.map_some]
  have expiry : head.claimExpiresAt = some held.expiresAt := by
    rw [← shown.expiry, active, Option.map_some]
  simp only [checkClaimHead, bind_eq_ok_iff, rejectIf_eq_ok_iff, exists_unit_iff, activeId, expiry,
    unexpiredAt] at checked
  have expired : held.expiresAt ≤ request.observedAt := by
    by_contra unexpired
    exact checked.2.1 ⟨Option.some_ne_none _, held.expiresAt, rfl, not_le.mp unexpired⟩
  exact expired.trans request.requestTime

/-- A claim request keeps the lease of the revision it follows. -/
theorem LeaseContinuous.of_claim {request : RuntimeEffectClaimRequest}
    (valid : validateRuntimeEffectClaimRequest request = .ok ())
    (accepts : HeadAccepts head (.claim request)) (shown : Represents head last) :
    LeaseContinuous last (revisionOf (.claim request) request.requestedAt) := by
  have status : (revisionOf (.claim request) request.requestedAt).lifecycleStatus = .claimed :=
    (ClaimRequestBound.of_validate valid).status
  refine ⟨?_, ?_, ?_⟩
  · intro _ held active _ _ _
    exact expired_of_claim accepts shown active
  · intro delivering
    rw [status] at delivering
    cases delivering
  · intro _ outcome
    rw [status] at outcome
    simp [deliveryOutcomes] at outcome

/-- A commit keeps the lease of the revision its head showed exactly when the
request does. -/
theorem leaseContinuous_commit_iff (valid : validateRuntimeEffectLifecycleRequest request = .ok ())
    (accepts : HeadAccepts head request) (shown : Represents head last) :
    LeaseContinuous last (revisionOf request request.requestedAt) ↔ keepsLease head request := by
  cases request with
  | claim request => exact ⟨fun _ => trivial, fun _ => .of_claim valid accepts shown⟩
  | append request =>
      simp only [keepsLease, ← shown.status, ← shown.claim, ← shown.payload]
      exact ⟨fun kept => ⟨kept.exclusive, kept.claim, kept.attempt⟩,
        fun ⟨exclusive, claim, attempt⟩ => ⟨exclusive, claim, attempt⟩⟩

/-- The revisions of every effect keep their leases. -/
def LeasesKept (store : RuntimeEffectStore) : Prop :=
  ∀ head ∈ store.heads, (store.revisionsOf head.key).IsChain LeaseContinuous

instance (store : RuntimeEffectStore) : Decidable (LeasesKept store) :=
  inferInstanceAs (Decidable (∀ _ ∈ _, _))

/-- The revisions of a run keep every lease exactly when each append it commits
does. -/
theorem leasesKept_iff {state : LifecycleState} {events : List LifecycleEvent}
    (steps : lifecycleSystem.Steps {} events state) :
    LeasesKept state.store ↔ (guardedLifecycle keepsLease).Steps {} events state :=
  chainsRelated_iff leaseContinuous_commit_iff steps

namespace Sample

/-- The claim a second worker brings while the first one's lease runs. -/
def otherClaim : RuntimeEffectClaim where
  runtimeEffectClaimId := 73
  runtimeEffectId := 3
  tenantId := 1
  organizationId := 2
  expectedLifecycleRevision := .nearest 2
  claimantReference := "worker-2"
  leaseId := 74
  clockReference := "clock"
  claimedAt := 12
  expiresAt := 22
  claimDigestReference := "claim-2"

/-- The revision it is appended in. -/
def replacedRecord : RuntimeEffectLifecycleRecord :=
  { claimedRecord with
    runtimeEffectLifecycleRecordId := 35
    lifecycleRevision := .nearest 3
    previousLifecycleRecordId := some 32
    previousLifecycleDigestReference := some "revision-2"
    runtimeEffectClaimId := some 73
    recordedAt := 12
    lifecycleDigestReference := "revision-3b"
    revisionOrigin := by decide
    claimEvidence := by decide }

/-- The append call of the second worker. -/
def replacingRequest : RuntimeEffectLifecycleRequest :=
  .append
    { runtimeEffectLifecycleAppendRequestId := 65
      contractVersion := contractVersion
      append :=
        { effectIdentity := identity
          previousLifecycleRecord := claimedRecord
          lifecycleRecord := replacedRecord
          claim := some otherClaim
          receiptFact := receiptFact 55 replacedRecord }
      clockReference := "clock"
      requestedAt := 12 }

/-- The second worker appends its claim eight instants before the lease ends. -/
def replacingRun : List LifecycleEvent := claimedRun ++ call 1 replacingRequest

end Sample

/-- The sample run up to delivery keeps its lease. -/
theorem leasesKept_iff_delivering :
    ∃ state, LifecycleState.run keepsLease {} Sample.deliveringRun = some state ∧
      LeasesKept state.store := by
  have ran : (LifecycleState.run keepsLease {} Sample.deliveringRun).isSome := by decide
  have steps := steps_of_run (Option.some_get ran).symm
  exact ⟨_, (Option.some_get ran).symm, (leasesKept_iff steps.of_restrict).mpr steps⟩

/-- The replacing append is accepted before the active claim expires. -/
theorem leases_replaced :
    ∃ state, lifecycleSystem.Reachable state ∧
      LifecycleState.run (fun _ _ => True) {} Sample.replacingRun = some state ∧
      ¬ LeasesKept state.store := by
  have ran : (LifecycleState.run (fun _ _ => True) {} Sample.replacingRun).isSome := by decide
  have broken : ¬ LeasesKept ((LifecycleState.run (fun _ _ => True) {}
      Sample.replacingRun).get ran).store := by
    decide +revert
  exact ⟨_, (reachable_of_run ran).of_restrict, (Option.some_get ran).symm, broken⟩

/-! ## What callers are told -/

/-- The request that a caller was told is appended. -/
def LifecycleCall.acknowledged (call : LifecycleCall) : Option RuntimeEffectLifecycleRequest :=
  match call.phase with
  | .answered (.ok ⟨.appended, _⟩) => some call.request
  | _ => none

/-- The request that a revision was committed for. -/
def RuntimeEffectLifecycleRevision.committed (row : RuntimeEffectLifecycleRevision) :
    Option RuntimeEffectLifecycleRequest :=
  match row.writeRequestPayload with
  | .lifecycle request => some request
  | .initial _ => none

section Acknowledged

variable {store : RuntimeEffectStore} {request : RuntimeEffectLifecycleRequest}
  {state : LifecycleState}

theorem acknowledged_of_replay {result : RuntimeEffectLifecycleCommitResult}
    (replayed : exactReplay row request = .ok result) :
    LifecycleCall.acknowledged ⟨request, .answered (.ok result)⟩ = none := by
  unfold exactReplay at replayed
  split at replayed <;>
    simp only [bind_eq_ok_iff, pure_eq_ok_iff, reduceCtorEq, false_and, exists_false,
      exists_unit_iff] at replayed <;>
    exact replayed.2 ▸ rfl

/-- No lookup acknowledges a request. -/
theorem acknowledged_submitPhase :
    LifecycleCall.acknowledged ⟨request, submitPhase store request⟩ = none := by
  simp only [submitPhase, firstLookup, bind, Except.bind]
  rcases validateRuntimeEffectLifecycleRequest request with _ | _ <;> try rfl
  rcases existing store request with _ | _ | row <;> try rfl
  dsimp only
  cases replayed : exactReplay row request with
  | error => rfl
  | ok => exact acknowledged_of_replay replayed

theorem acknowledged_lockPhase :
    LifecycleCall.acknowledged ⟨request, lockPhase store request⟩ = none := by
  simp only [lockPhase, lockedRead, storageFailed, bind, Except.bind]
  rcases scalarOneOrNone (store.heads.filter _) with _ | head <;> try rfl
  rcases existing store request with _ | _ | row <;> try rfl
  · rcases head with _ | head <;> try rfl
    dsimp only
    cases checkHead head request <;> rfl
  · dsimp only
    cases replayed : exactReplay row request with
    | error => rfl
    | ok => exact acknowledged_of_replay replayed

/-- Every request is acknowledged as often as it is committed. -/
def Acknowledged (state : LifecycleState) : Prop :=
  ∀ request, state.calls.countP (·.acknowledged = some request) =
    state.store.revisions.countP (·.committed = some request)

theorem Acknowledged.setPhase (kept : Acknowledged state) {caller : Nat} {call : LifecycleCall}
    (present : state.calls[caller]? = some call) (unanswered : call.acknowledged = none)
    {phase : CallPhase} (told : ∀ request, store.revisions.countP (·.committed = some request) =
      state.store.revisions.countP (·.committed = some request) +
        if LifecycleCall.acknowledged { call with phase := phase } = some request then 1 else 0) :
    Acknowledged (LifecycleState.setPhase { state with store := store } caller call phase) := by
  intro request
  obtain ⟨inside, rfl⟩ := List.getElem?_eq_some_iff.mp present
  refine (List.countP_set inside).trans (.trans ?_ (told request).symm)
  simp [unanswered, kept request]

end Acknowledged

end PolicyOS.Runtime
