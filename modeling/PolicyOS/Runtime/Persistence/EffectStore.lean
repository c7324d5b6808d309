import PolicyOS.Foundation.LinkedLog
import PolicyOS.Foundation.Transition
import PolicyOS.Runtime.Persistence.DeliveryRepositories

/-!
# Atomic effect store

The lifecycle store with every write taken at once: an initial enqueue, or a
commit of a validated request on the head it was checked against. The revisions
of one effect are a linked log that its head represents, and every row is what
its stored request makes of it.
-/

namespace PolicyOS.Runtime

open Foundation

/-- The advanced head is still the head of the same effect. -/
@[simp] theorem advanceHead_key (head : RuntimeEffectLifecycleHead)
    (request : RuntimeEffectLifecycleRequest) : (advanceHead head request).key = head.key := rfl

/-- A revision row belongs to the effect of its request. -/
@[simp] theorem revisionOf_key (request : RuntimeEffectLifecycleRequest) (storedAt : DateTime) :
    (revisionOf request storedAt).key = request.effectIdentity.key := rfl

/-- A locked head admits a request. -/
structure HeadAccepts (head : RuntimeEffectLifecycleHead)
    (request : RuntimeEffectLifecycleRequest) : Prop where
  open_ : head.currentStatus ∉ RuntimeEffectLifecycleStatus.terminal
  revision : head.currentLifecycleRevision = request.previousLifecycleRecord.lifecycleRevision.val
  record : head.currentLifecycleRecordId =
    request.previousLifecycleRecord.runtimeEffectLifecycleRecordId
  digest : head.currentLifecycleDigestReference =
    request.previousLifecycleRecord.lifecycleDigestReference
  claim : checkClaimHead head request = .ok ()

variable {head : RuntimeEffectLifecycleHead} {request : RuntimeEffectLifecycleRequest}
  {write : StoreWrite} {row : RuntimeEffectLifecycleRevision}
  {initial : RuntimeInitialEffectEnqueue} {Property : RuntimeEffectLifecycleRequest → Prop}

theorem checkHead_eq_ok_iff :
    checkHead head request = .ok () ↔ HeadAccepts head request := by
  simp only [checkHead, bind_eq_ok_iff, rejectIf_eq_ok_iff, exists_unit_iff, not_or, not_not]
  constructor
  · rintro ⟨nonterminal, ⟨revision, record, digest⟩, claim⟩
    exact ⟨nonterminal, revision, record, digest, claim⟩
  · rintro ⟨nonterminal, revision, record, digest, claim⟩
    exact ⟨nonterminal, ⟨revision, record, digest⟩, claim⟩

/-- What an accepted flush did to the store. -/
structure Flushed (store : RuntimeEffectStore) (head : RuntimeEffectLifecycleHead)
    (request : RuntimeEffectLifecycleRequest) (next : RuntimeEffectStore) : Prop where
  fresh : ∀ stored ∈ store.revisions,
    ¬ (revisionOf request request.requestedAt).conflictsWith stored
  effects : next.effects = store.effects
  revisions : next.revisions = store.revisions ++ [revisionOf request request.requestedAt]
  heads : next.heads = store.heads.map fun stored =>
    if stored.key = head.key then advanceHead head request else stored
  observations : next.observations = store.observations ++ (observationRow request).toList

theorem Flushed.of_flush {store next : RuntimeEffectStore}
    (accepted : flush store head request = .ok next) :
    Flushed store head request next := by
  simp only [flush, bind_eq_ok_iff, rejectIf_eq_ok_iff, exists_unit_iff, pure_eq_ok_iff,
    not_or] at accepted
  obtain ⟨⟨free, _⟩, rfl⟩ := accepted
  simp only [RuntimeEffectStore.rejectsRevision, not_or, not_exists, not_and] at free
  exact ⟨free.2, rfl, rfl, rfl, rfl⟩

/-- One write to the store. -/
inductive StoreWrite
  | enqueue (initial : RuntimeInitialEffectEnqueue) (requestedAt storedAt : DateTime)
  | commit (head : RuntimeEffectLifecycleHead) (request : RuntimeEffectLifecycleRequest)

/-- A commit of a validated request on a stored head that admits it. -/
structure CommitStep (store : RuntimeEffectStore) (head : RuntimeEffectLifecycleHead)
    (request : RuntimeEffectLifecycleRequest) (next : RuntimeEffectStore) : Prop where
  valid : validateRuntimeEffectLifecycleRequest request = .ok ()
  stored : head ∈ store.heads
  scope : head.inScope request.effectIdentity
  accepts : HeadAccepts head request
  flushed : Flushed store head request next

/-- One atomic write. -/
def StoreStep (store : RuntimeEffectStore) (write : StoreWrite) (next : RuntimeEffectStore) :
    Prop :=
  match write with
  | .enqueue initial requestedAt storedAt =>
      InitiallyEnqueued store initial requestedAt storedAt next
  | .commit head request => CommitStep store head request next

/-- The store under atomic writes, from no rows. -/
def effectStoreSystem : TransitionSystem RuntimeEffectStore StoreWrite where
  Initial store := store = {}
  Step := StoreStep

/-- A condition on what is committed onto which head. -/
abbrev CommitGuard := RuntimeEffectLifecycleHead → RuntimeEffectLifecycleRequest → Prop

/-- Every commit meets the guard. -/
def guardedWrite (guard : CommitGuard) (_ : RuntimeEffectStore) (write : StoreWrite)
    (_ : RuntimeEffectStore) : Prop :=
  ∀ head request, write = .commit head request → guard head request

theorem StoreStep.revisions_prefix {store next : RuntimeEffectStore}
    (step : StoreStep store write next) : store.revisions <+: next.revisions := by
  cases write with
  | enqueue initial requestedAt storedAt =>
      have enqueued : InitiallyEnqueued store initial requestedAt storedAt next := step
      exact ⟨_, enqueued.revisions.symm⟩
  | commit head request =>
      have committed : CommitStep store head request next := step
      exact ⟨_, committed.flushed.revisions.symm⟩

theorem revisionsOf_of_snoc {store next : RuntimeEffectStore}
    (added : next.revisions = store.revisions ++ [row]) (key : EffectKey) :
    next.revisionsOf key =
      if row.key = key then store.revisionsOf key ++ [row] else store.revisionsOf key := by
  unfold RuntimeEffectStore.revisionsOf
  rw [added, List.filter_append]
  by_cases same : row.key = key <;> simp [same]

theorem revisionsOf_prefix {store next : RuntimeEffectStore}
    (rows : store.revisions <+: next.revisions) (key : EffectKey) :
    store.revisionsOf key <+: next.revisionsOf key :=
  rows.filter _

/-! ## Keys -/

/-- Each effect has one head, and no two heads share a key. -/
structure KeysPaired (store : RuntimeEffectStore) : Prop where
  nodup : (store.heads.map (·.key)).Nodup
  paired : store.heads.map (·.key) = store.effects.map (·.key)

theorem Flushed.head_keys {store next : RuntimeEffectStore}
    (flushed : Flushed store head request next) :
    next.heads.map (·.key) = store.heads.map (·.key) := by
  rw [flushed.heads, List.map_map]
  apply List.map_congr_left
  intro stored _
  by_cases same : stored.key = head.key <;> simp [same]

/-- Every write keeps the keys paired. -/
theorem StoreStep.keysPaired {store next : RuntimeEffectStore} (keys : KeysPaired store)
    (step : StoreStep store write next) : KeysPaired next := by
  cases write with
  | enqueue initial requestedAt storedAt =>
      have enqueued : InitiallyEnqueued store initial requestedAt storedAt next := step
      refine ⟨?_, ?_⟩
      · rw [enqueued.heads, List.map_append, List.nodup_append]
        refine ⟨keys.nodup, List.nodup_singleton _, ?_⟩
        intro key isStored fresh isFresh same
        obtain ⟨row, stored, rfl⟩ := List.mem_map.mp isStored
        have new : fresh = initial.effectIdentity.key := by simpa using isFresh
        exact enqueued.freshHead row stored (new.symm.trans same.symm)
      · rw [enqueued.heads, enqueued.effects, List.map_append, List.map_append, keys.paired]
        rfl
  | commit head request =>
      have committed : CommitStep store head request next := step
      refine ⟨?_, ?_⟩
      · rw [committed.flushed.head_keys]
        exact keys.nodup
      · rw [committed.flushed.head_keys, committed.flushed.effects]
        exact keys.paired

/-- Every stored head keeps a row of its key. -/
theorem StoreStep.head_kept {store next : RuntimeEffectStore} (step : StoreStep store write next)
    (stored : head ∈ store.heads) : ∃ current ∈ next.heads, current.key = head.key := by
  have listed : head.key ∈ next.heads.map (·.key) := by
    cases write with
    | enqueue initial requestedAt storedAt =>
        have enqueued : InitiallyEnqueued store initial requestedAt storedAt next := step
        rw [enqueued.heads, List.map_append]
        exact List.mem_append_left _ (List.mem_map_of_mem stored)
    | commit advanced request =>
        have committed : CommitStep store advanced request next := step
        rw [committed.flushed.head_keys]
        exact List.mem_map_of_mem stored
  exact List.mem_map.mp listed

theorem KeysPaired.head_unique {store : RuntimeEffectStore} (keys : KeysPaired store)
    {left right : RuntimeEffectLifecycleHead} (isLeft : left ∈ store.heads)
    (isRight : right ∈ store.heads) (same : left.key = right.key) : left = right :=
  List.inj_on_of_nodup_map keys.nodup isLeft isRight same

/-! ## Logs -/

/-- The first revision of an effect. -/
structure IsOrigin (row : RuntimeEffectLifecycleRevision) : Prop where
  revision : row.lifecycleRevision = 1
  status : row.lifecycleStatus = .enqueued
  unlinked : row.lifecycleRecordPayload.previousLifecycleRecordId = none

/-- One revision directly follows another that was not terminal. -/
structure LinksTo (earlier later : RuntimeEffectLifecycleRevision) : Prop where
  revision : later.lifecycleRevision = earlier.lifecycleRevision + 1
  record : later.lifecycleRecordPayload.previousLifecycleRecordId =
    some earlier.runtimeEffectLifecycleRecordId
  digest : later.lifecycleRecordPayload.previousLifecycleDigestReference =
    some earlier.lifecycleDigestReference
  nonterminal : earlier.lifecycleStatus ∉ RuntimeEffectLifecycleStatus.terminal

/-- The head shows one revision. -/
structure Represents (head : RuntimeEffectLifecycleHead) (row : RuntimeEffectLifecycleRevision) :
    Prop where
  key : row.key = head.key
  classification : row.classification = head.classification
  revision : row.lifecycleRevision = head.currentLifecycleRevision
  record : row.runtimeEffectLifecycleRecordId = head.currentLifecycleRecordId
  status : row.lifecycleStatus = head.currentStatus
  digest : row.lifecycleDigestReference = head.currentLifecycleDigestReference
  payload : row.lifecycleRecordPayload = head.currentLifecyclePayload
  claim : row.claimPayload = head.activeClaimPayload
  claimId : row.claimPayload.map (·.runtimeEffectClaimId) = head.activeClaimId
  leaseId : row.claimPayload.map (·.leaseId) = head.activeLeaseId
  expiry : row.claimPayload.map (·.expiresAt) = head.claimExpiresAt
  retry : row.retryDecisionPayload = head.currentRetryDecisionPayload
  stored : row.storedAt = head.updatedAt

/-- The revisions of a head's effect are a linked log that ends in what the head
shows. -/
structure HeadLog (store : RuntimeEffectStore) (head : RuntimeEffectLifecycleHead) : Prop where
  log : LinkedLog IsOrigin LinksTo (store.revisionsOf head.key)
  shown : ∃ last, (store.revisionsOf head.key).getLast? = some last ∧ Represents head last

/-- Every head has its log, and every revision its head. -/
structure LogsKept (store : RuntimeEffectStore) : Prop where
  logs : ∀ head ∈ store.heads, HeadLog store head
  homes : ∀ row ∈ store.revisions, ∃ head ∈ store.heads, head.key = row.key

theorem IsOrigin.of_enqueue (bound : InitialEnqueueBound initial)
    (requestedAt storedAt : DateTime) :
    IsOrigin (initial.revisionRow requestedAt storedAt) :=
  ⟨rfl, bound.status, (initial.initialLifecycleRecord.revisionOrigin.1 bound.revision).2.1⟩

theorem Represents.of_enqueue (requestedAt storedAt : DateTime) :
    Represents (initial.headRow storedAt) (initial.revisionRow requestedAt storedAt) :=
  ⟨rfl, rfl, rfl, rfl, rfl, rfl, rfl, rfl, rfl, rfl, rfl, rfl, rfl⟩

theorem Represents.of_commit (scope : head.inScope request.effectIdentity) :
    Represents (advanceHead head request) (revisionOf request request.requestedAt) :=
  ⟨scope.1.symm, scope.2.symm, rfl, rfl, rfl, rfl, rfl, rfl, rfl, rfl, rfl, rfl, rfl⟩

/-- A committed revision links to the one its head showed. -/
theorem LinksTo.of_commit {last : RuntimeEffectLifecycleRevision}
    (bound : LifecycleRequestBound request) (accepts : HeadAccepts head request)
    (shown : Represents head last) : LinksTo last (revisionOf request request.requestedAt) where
  revision := by
    rw [shown.revision, accepts.revision]
    exact bound.successor.revision
  record := by
    rw [shown.record, accepts.record]
    exact bound.successor.record
  digest := by
    rw [shown.digest, accepts.digest]
    exact bound.successor.digest
  nonterminal := by
    rw [shown.status]
    exact accepts.open_

/-- A commit extends the log of its own head. -/
theorem HeadLog.of_commit {store next : RuntimeEffectStore} (prior : HeadLog store head)
    (committed : CommitStep store head request next) :
    HeadLog next (advanceHead head request) := by
  obtain ⟨last, ends, shown⟩ := prior.shown
  have bound := LifecycleRequestBound.of_validate committed.valid
  have link := LinksTo.of_commit bound committed.accepts shown
  have extended := revisionsOf_of_snoc committed.flushed.revisions head.key
  rw [revisionOf_key, if_pos committed.scope.1.symm] at extended
  constructor
  · rw [advanceHead_key, extended]
    exact prior.log.snoc ends link
  · refine ⟨_, ?_, Represents.of_commit committed.scope⟩
    rw [advanceHead_key, extended, List.getLast?_concat]

theorem HeadLog.of_other {store next : RuntimeEffectStore} (prior : HeadLog store head)
    (added : next.revisions = store.revisions ++ [row]) (other : row.key ≠ head.key) :
    HeadLog next head := by
  have same := revisionsOf_of_snoc added head.key
  rw [if_neg other] at same
  exact ⟨same ▸ prior.log, same ▸ prior.shown⟩

/-- No revision can have preceded an enqueue, since each has a head. -/
theorem LogsKept.fresh {store next : RuntimeEffectStore} (kept : LogsKept store)
    {requestedAt storedAt : DateTime}
    (enqueued : InitiallyEnqueued store initial requestedAt storedAt next) :
    next.revisionsOf initial.effectIdentity.key = [initial.revisionRow requestedAt storedAt] := by
  have empty : store.revisionsOf initial.effectIdentity.key = [] := by
    rw [RuntimeEffectStore.revisionsOf, List.filter_eq_nil_iff]
    intro row isRow same
    obtain ⟨head, stored, sameKey⟩ := kept.homes row isRow
    exact enqueued.freshHead head stored (sameKey.trans (of_decide_eq_true same)).symm
  rw [revisionsOf_of_snoc enqueued.revisions, RuntimeInitialEffectEnqueue.revisionRow_key,
    if_pos rfl, empty, List.nil_append]

/-- Every write keeps the logs. -/
theorem StoreStep.logsKept {store next : RuntimeEffectStore} (kept : LogsKept store)
    (step : StoreStep store write next) : LogsKept next := by
  cases write with
  | enqueue initial requestedAt storedAt =>
      have enqueued : InitiallyEnqueued store initial requestedAt storedAt next := step
      refine ⟨?_, ?_⟩
      · intro head isHead
        rw [enqueued.heads, List.mem_append, List.mem_singleton] at isHead
        rcases isHead with stored | rfl
        · exact (kept.logs head stored).of_other enqueued.revisions
            (enqueued.freshHead head stored)
        · have started := kept.fresh enqueued
          constructor
          · rw [RuntimeInitialEffectEnqueue.headRow_key, started]
            exact .singleton (IsOrigin.of_enqueue enqueued.bound requestedAt storedAt)
          · refine ⟨_, ?_, Represents.of_enqueue requestedAt storedAt⟩
            rw [RuntimeInitialEffectEnqueue.headRow_key, started]
            rfl
      · intro row isRow
        rw [enqueued.revisions, List.mem_append, List.mem_singleton] at isRow
        rw [enqueued.heads]
        rcases isRow with stored | rfl
        · obtain ⟨head, isHead, same⟩ := kept.homes row stored
          exact ⟨head, List.mem_append_left _ isHead, same⟩
        · exact ⟨initial.headRow storedAt, by simp, rfl⟩
  | commit head request =>
      have committed : CommitStep store head request next := step
      refine ⟨?_, ?_⟩
      · intro current isHead
        rw [committed.flushed.heads, List.mem_map] at isHead
        obtain ⟨stored, isStored, rfl⟩ := isHead
        by_cases same : stored.key = head.key
        · rw [if_pos same]
          exact (kept.logs head committed.stored).of_commit committed
        · rw [if_neg same]
          refine (kept.logs stored isStored).of_other committed.flushed.revisions ?_
          rw [revisionOf_key, ← committed.scope.1]
          exact fun sameKey => same sameKey.symm
      · intro row isRow
        rw [committed.flushed.revisions, List.mem_append, List.mem_singleton] at isRow
        rcases isRow with stored | rfl
        · obtain ⟨home, isHome, same⟩ := kept.homes row stored
          obtain ⟨current, isCurrent, sameKey⟩ := step.head_kept isHome
          exact ⟨current, isCurrent, sameKey.trans same⟩
        · obtain ⟨current, isCurrent, sameKey⟩ := step.head_kept committed.stored
          exact ⟨current, isCurrent, sameKey.trans committed.scope.1⟩

/-- A terminal head and the revisions of its effect outlive every write. -/
theorem StoreStep.terminal_kept {store next : RuntimeEffectStore} (keys : KeysPaired store)
    (step : StoreStep store write next) (stored : head ∈ store.heads)
    (terminal : head.currentStatus ∈ RuntimeEffectLifecycleStatus.terminal) :
    head ∈ next.heads ∧ next.revisionsOf head.key = store.revisionsOf head.key := by
  cases write with
  | enqueue initial requestedAt storedAt =>
      have enqueued : InitiallyEnqueued store initial requestedAt storedAt next := step
      constructor
      · rw [enqueued.heads]
        exact List.mem_append_left _ stored
      · rw [revisionsOf_of_snoc enqueued.revisions, RuntimeInitialEffectEnqueue.revisionRow_key,
          if_neg (enqueued.freshHead head stored)]
  | commit advanced request =>
      have committed : CommitStep store advanced request next := step
      have other : head.key ≠ advanced.key := by
        intro same
        obtain rfl := keys.head_unique stored committed.stored same
        exact committed.accepts.open_ terminal
      constructor
      · rw [committed.flushed.heads, List.mem_map]
        exact ⟨head, stored, if_neg other⟩
      · rw [revisionsOf_of_snoc committed.flushed.revisions, if_neg]
        rw [revisionOf_key, ← committed.scope.1]
        exact other.symm

/-! ## Rows -/

/-- A row of an initial enqueue, or of a request with the given property. -/
def WrittenBy (Property : RuntimeEffectLifecycleRequest → Prop)
    (row : RuntimeEffectLifecycleRevision) : Prop :=
  (∃ initial requestedAt storedAt,
    row = RuntimeInitialEffectEnqueue.revisionRow initial requestedAt storedAt) ∨
  ∃ request, Property request ∧ row = revisionOf request request.requestedAt

theorem WrittenBy.of_payload (written : WrittenBy Property row)
    (payload : row.writeRequestPayload = .lifecycle request) :
    Property request ∧ row = revisionOf request request.requestedAt := by
  rcases written with ⟨initial, requestedAt, storedAt, rfl⟩ | ⟨stored, property, rfl⟩
  · cases payload
  · obtain rfl : stored = request := by injection payload
    exact ⟨property, rfl⟩

theorem WrittenBy.of_answers (written : WrittenBy Property row) (answers : row.answers request) :
    ∃ stored, Property stored ∧ row = revisionOf stored stored.requestedAt ∧
      (revisionOf stored stored.requestedAt).answers request := by
  rcases written with ⟨initial, requestedAt, storedAt, rfl⟩ | ⟨stored, property, rfl⟩
  · cases request <;> cases answers
  · exact ⟨stored, property, rfl, answers⟩

/-- The rows are free of conflicts, and each is what its write makes of it. -/
structure RowsKept (Property : RuntimeEffectLifecycleRequest → Prop)
    (store : RuntimeEffectStore) : Prop where
  free : Unconflicted RuntimeEffectLifecycleRevision.conflictsWith store.revisions
  written : ∀ row ∈ store.revisions, WrittenBy Property row

/-- Every write whose commit has the property keeps the rows. -/
theorem StoreStep.rowsKept {store next : RuntimeEffectStore} (kept : RowsKept Property store)
    (step : StoreStep store write next)
    (property : ∀ head request, write = .commit head request →
      validateRuntimeEffectLifecycleRequest request = .ok () → Property request) :
    RowsKept Property next := by
  cases write with
  | enqueue initial requestedAt storedAt =>
      have enqueued : InitiallyEnqueued store initial requestedAt storedAt next := step
      constructor
      · rw [enqueued.revisions]
        exact kept.free.snoc enqueued.freshRevision
      · intro row isRow
        rw [enqueued.revisions, List.mem_append, List.mem_singleton] at isRow
        rcases isRow with stored | rfl
        · exact kept.written row stored
        · exact .inl ⟨initial, requestedAt, storedAt, rfl⟩
  | commit head request =>
      have committed : CommitStep store head request next := step
      constructor
      · rw [committed.flushed.revisions]
        exact kept.free.snoc committed.flushed.fresh
      · intro row isRow
        rw [committed.flushed.revisions, List.mem_append, List.mem_singleton] at isRow
        rcases isRow with stored | rfl
        · exact kept.written row stored
        · exact .inr ⟨request, property head request rfl committed.valid, rfl⟩

/-- Keys, logs and rows together. -/
structure StoreKept (Property : RuntimeEffectLifecycleRequest → Prop)
    (store : RuntimeEffectStore) : Prop where
  keys : KeysPaired store
  logs : LogsKept store
  rows : RowsKept Property store

theorem StoreKept.empty :
    StoreKept Property {} where
  keys := ⟨List.nodup_nil, rfl⟩
  logs :=
    ⟨fun _ isHead => absurd isHead List.not_mem_nil, fun _ isRow => absurd isRow List.not_mem_nil⟩
  rows := ⟨.nil, fun _ isRow => absurd isRow List.not_mem_nil⟩

/-- Keys, logs and rows are kept by every run of guarded writes. -/
def storeKept (guard : CommitGuard) {Property : RuntimeEffectLifecycleRequest → Prop}
    (property : ∀ head request, guard head request →
      validateRuntimeEffectLifecycleRequest request = .ok () → Property request) :
    (effectStoreSystem.restrict (guardedWrite guard)).Invariant where
  Holds := StoreKept Property
  initial := by
    rintro _ rfl
    exact .empty
  preserved kept transition :=
    ⟨transition.1.keysPaired kept.keys, transition.1.logsKept kept.logs,
      transition.1.rowsKept kept.rows fun head request isCommit =>
        property head request (transition.2 head request isCommit)⟩

/-! ## Relations between consecutive revisions -/

/-- A relation that every guarded commit establishes between the revision its head
showed and the one it adds. -/
def EstablishedBy (guard : CommitGuard)
    (Relation : RuntimeEffectLifecycleRevision → RuntimeEffectLifecycleRevision → Prop) : Prop :=
  ∀ {head request last}, validateRuntimeEffectLifecycleRequest request = .ok () →
    head.inScope request.effectIdentity → HeadAccepts head request → guard head request →
    Represents head last → Relation last (revisionOf request request.requestedAt)

/-- Logs whose consecutive revisions are related. -/
structure RelatedLogs
    (Relation : RuntimeEffectLifecycleRevision → RuntimeEffectLifecycleRevision → Prop)
    (store : RuntimeEffectStore) : Prop where
  logs : LogsKept store
  related : ∀ head ∈ store.heads, (store.revisionsOf head.key).IsChain Relation

/-- A guarded write keeps an established relation between consecutive revisions. -/
theorem StoreStep.relatedLogs {guard : CommitGuard}
    {Relation : RuntimeEffectLifecycleRevision → RuntimeEffectLifecycleRevision → Prop}
    (established : EstablishedBy guard Relation) {store next : RuntimeEffectStore}
    (kept : RelatedLogs Relation store) (step : StoreStep store write next)
    (guarded : guardedWrite guard store write next) : RelatedLogs Relation next := by
  refine ⟨step.logsKept kept.logs, ?_⟩
  intro current isHead
  cases write with
  | enqueue initial requestedAt storedAt =>
      have enqueued : InitiallyEnqueued store initial requestedAt storedAt next := step
      rw [enqueued.heads, List.mem_append, List.mem_singleton] at isHead
      rcases isHead with stored | rfl
      · rw [revisionsOf_of_snoc enqueued.revisions, RuntimeInitialEffectEnqueue.revisionRow_key,
          if_neg (enqueued.freshHead current stored)]
        exact kept.related current stored
      · rw [RuntimeInitialEffectEnqueue.headRow_key, kept.logs.fresh enqueued]
        exact .singleton _
  | commit head request =>
      have committed : CommitStep store head request next := step
      rw [committed.flushed.heads, List.mem_map] at isHead
      obtain ⟨stored, isStored, rfl⟩ := isHead
      by_cases same : stored.key = head.key
      · rw [if_pos same, advanceHead_key, revisionsOf_of_snoc committed.flushed.revisions,
          revisionOf_key, if_pos committed.scope.1.symm]
        obtain ⟨last, ends, shown⟩ := (kept.logs.logs head committed.stored).shown
        refine List.isChain_append.mpr ⟨kept.related head committed.stored, .singleton _, ?_⟩
        intro earlier isLast later isNext
        rw [ends, Option.mem_def, Option.some.injEq] at isLast
        rw [List.head?_cons, Option.mem_def, Option.some.injEq] at isNext
        subst isLast isNext
        exact established committed.valid committed.scope committed.accepts
          (guarded head request rfl) shown
      · rw [if_neg same, revisionsOf_of_snoc committed.flushed.revisions, revisionOf_key, if_neg]
        · exact kept.related stored isStored
        · rw [← committed.scope.1]
          exact fun sameKey => same sameKey.symm

/-- An established relation holds between consecutive revisions along every run of
guarded writes. -/
def relatedLogs {guard : CommitGuard}
    {Relation : RuntimeEffectLifecycleRevision → RuntimeEffectLifecycleRevision → Prop}
    (established : EstablishedBy guard Relation) :
    (effectStoreSystem.restrict (guardedWrite guard)).Invariant where
  Holds := RelatedLogs Relation
  initial := by
    rintro _ rfl
    exact ⟨⟨fun _ isHead => absurd isHead List.not_mem_nil,
      fun _ isRow => absurd isRow List.not_mem_nil⟩,
      fun _ isHead => absurd isHead List.not_mem_nil⟩
  preserved kept transition := transition.1.relatedLogs established kept transition.2

end PolicyOS.Runtime
