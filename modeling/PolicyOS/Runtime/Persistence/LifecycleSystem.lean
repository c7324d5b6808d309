import PolicyOS.Runtime.Persistence.EffectStore

/-!
# Concurrent lifecycle calls

Any number of callers run claim and append calls over one store. Between the two
transactions of a call, and between the locked read and the flush of its second
one, other callers take their own steps. The head's row lock is modelled by the
callers that hold it: a second locked read of the same head waits. With the
lock, what a caller read is still the stored head when it writes, so the store
evolves as the atomic effect store does.
-/

namespace PolicyOS.Runtime

open Foundation

/-- How far a call has come. -/
inductive CallPhase
  | waiting
  | locked (head : RuntimeEffectLifecycleHead)
  | answered (answer : Except RuntimePortError RuntimeEffectLifecycleCommitResult)
  deriving DecidableEq

/-- One claim or append call. -/
structure LifecycleCall where
  request : RuntimeEffectLifecycleRequest
  phase : CallPhase
  deriving DecidableEq

/-- The committed rows and every call made so far. -/
structure LifecycleState where
  store : RuntimeEffectStore := {}
  calls : List LifecycleCall := []
  deriving DecidableEq

/-- What can happen next. A caller is named by the position of its call. -/
inductive LifecycleEvent
  | enqueue (initial : RuntimeInitialEffectEnqueue) (requestedAt storedAt : DateTime)
  | submit (request : RuntimeEffectLifecycleRequest)
  | lock (caller : Nat)
  | flush (caller : Nat)
  | abort (caller : Nat)
  deriving DecidableEq

/-- A call holds the row lock of the head that this scope selects. -/
def LifecycleCall.locks (call : LifecycleCall) (identity : RuntimeEffectIdentity) : Prop :=
  match call.phase with
  | .locked head => head.inScope identity
  | _ => False

instance (call : LifecycleCall) (identity : RuntimeEffectIdentity) :
    Decidable (call.locks identity) :=
  match call with
  | ⟨_, .waiting⟩ => inferInstanceAs (Decidable False)
  | ⟨_, .locked _⟩ => inferInstanceAs (Decidable (_ ∧ _))
  | ⟨_, .answered _⟩ => inferInstanceAs (Decidable False)

/-- Validation and the first transaction of a call. -/
def submitPhase (store : RuntimeEffectStore) (request : RuntimeEffectLifecycleRequest) :
    CallPhase :=
  match validateRuntimeEffectLifecycleRequest request with
  | .error error => .answered (.error error)
  | .ok () =>
      match firstLookup store request with
      | .error error => .answered (.error error)
      | .ok (some result) => .answered (.ok result)
      | .ok none => .waiting

/-- The locked read of a call. -/
def lockPhase (store : RuntimeEffectStore) (request : RuntimeEffectLifecycleRequest) : CallPhase :=
  match lockedRead store request with
  | .error error => .answered (.error error)
  | .ok (.replay result) => .answered (.ok result)
  | .ok (.proceed head) => .locked head

namespace LifecycleState

/-- A caller's call and how far it has come. -/
def CallAt (state : LifecycleState) (caller : Nat) (request : RuntimeEffectLifecycleRequest)
    (phase : CallPhase) : Prop :=
  state.calls[caller]? = some ⟨request, phase⟩

/-- Record how far a call has come. -/
def setPhase (state : LifecycleState) (caller : Nat) (call : LifecycleCall) (phase : CallPhase) :
    LifecycleState :=
  { state with calls := state.calls.set caller { call with phase := phase } }

/-- One event. An enqueue that is refused, or an event of a call that is not at
that point or waits for a row lock, does not happen. -/
def next (state : LifecycleState) : LifecycleEvent → Option LifecycleState
  | .enqueue initial requestedAt storedAt =>
      match persistRuntimeEffectAtomicWriteSet state.store initial requestedAt storedAt with
      | .ok store => some { state with store := store }
      | .error _ => none
  | .submit request =>
      some { state with calls := state.calls ++ [⟨request, submitPhase state.store request⟩] }
  | .lock caller =>
      match state.calls[caller]? with
      | some ⟨request, .waiting⟩ =>
          if ∃ call ∈ state.calls, call.locks request.effectIdentity then none
          else some (state.setPhase caller ⟨request, .waiting⟩ (lockPhase state.store request))
      | _ => none
  | .flush caller =>
      match state.calls[caller]? with
      | some ⟨request, .locked head⟩ =>
          match Runtime.flush state.store head request with
          | .ok store =>
              some ({ state with store := store }.setPhase caller ⟨request, .locked head⟩
                (.answered (appended request)))
          | .error error =>
              some (state.setPhase caller ⟨request, .locked head⟩ (.answered (.error error)))
      | _ => none
  | .abort caller =>
      match state.calls[caller]? with
      | some ⟨request, .waiting⟩ =>
          some (state.setPhase caller ⟨request, .waiting⟩
            (.answered (.error storageFailure)))
      | some ⟨request, .locked head⟩ =>
          some (state.setPhase caller ⟨request, .locked head⟩
            (.answered (.error storageFailure)))
      | _ => none

end LifecycleState

/-- Every interleaving of callers, from the empty store. -/
def lifecycleSystem : TransitionSystem LifecycleState LifecycleEvent where
  Initial state := state = {}
  Step state event next := state.next event = some next

/-! ## What one event does -/

/-- The five ways an event changes the state. -/
inductive EventEffect (state : LifecycleState) : LifecycleEvent → LifecycleState → Prop where
  | enqueued {initial requestedAt storedAt store}
      (inserted : InitiallyEnqueued state.store initial requestedAt storedAt store) :
      EventEffect state (.enqueue initial requestedAt storedAt) { state with store := store }
  | submitted {request} :
      EventEffect state (.submit request)
        { state with calls := state.calls ++ [⟨request, submitPhase state.store request⟩] }
  | read {caller request} (call : state.CallAt caller request .waiting)
      (unlocked : ∀ other ∈ state.calls, ¬ other.locks request.effectIdentity) :
      EventEffect state (.lock caller)
        (state.setPhase caller ⟨request, .waiting⟩ (lockPhase state.store request))
  | committed {caller request head store}
      (call : state.CallAt caller request (.locked head))
      (flushed : flush state.store head request = .ok store) :
      EventEffect state (.flush caller)
        (LifecycleState.setPhase { state with store := store } caller ⟨request, .locked head⟩
          (.answered (appended request)))
  | refused {event caller call error} (present : state.calls[caller]? = some call) :
      EventEffect state event (state.setPhase caller call (.answered (.error error)))

variable {event : LifecycleEvent} {state : LifecycleState} {request : RuntimeEffectLifecycleRequest}
  {store : RuntimeEffectStore} {head : RuntimeEffectLifecycleHead} {guard : CommitGuard}
  {events : List LifecycleEvent}

/-- Every event has one of these effects. -/
theorem EventEffect.of_next {state next : LifecycleState} (step : state.next event = some next) :
    EventEffect state event next := by
  cases event with
  | enqueue initial requestedAt storedAt =>
      simp only [LifecycleState.next] at step
      split at step
      · rename_i store accepted
        cases step
        exact .enqueued (InitiallyEnqueued.of_persist accepted)
      · cases step
  | submit request =>
      cases step
      exact .submitted
  | lock caller =>
      simp only [LifecycleState.next] at step
      split at step
      · rename_i request call
        split at step
        · cases step
        · rename_i unlocked
          cases step
          exact .read call fun other isCall locks => unlocked ⟨other, isCall, locks⟩
      · cases step
  | flush caller =>
      simp only [LifecycleState.next] at step
      split at step
      · rename_i request head call
        split at step
        · rename_i store flushed
          cases step
          exact .committed call flushed
        · cases step
          exact .refused call
      · cases step
  | abort caller =>
      simp only [LifecycleState.next] at step
      split at step
      · rename_i request call
        cases step
        exact .refused call
      · rename_i request head call
        cases step
        exact .refused call
      · cases step

/-- After a phase is recorded, a call is the recorded one or an earlier one of
another caller. -/
theorem LifecycleState.CallAt.of_setPhase {caller other : Nat} {call : LifecycleCall}
    {phase recorded : CallPhase}
    (present : (state.setPhase caller call recorded).CallAt other request phase) :
    (other = caller ∧ request = call.request ∧ phase = recorded) ∨
      (other ≠ caller ∧ state.CallAt other request phase) := by
  simp only [CallAt, setPhase, List.getElem?_set] at present
  by_cases same : caller = other
  · rw [if_pos same] at present
    split at present
    · cases present
      exact .inl ⟨same.symm, rfl, rfl⟩
    · cases present
  · rw [if_neg same] at present
    exact .inr ⟨fun equal => same equal.symm, present⟩

theorem LifecycleState.CallAt.of_snoc {caller : Nat} {call : LifecycleCall} {phase : CallPhase}
    (present : CallAt { state with calls := state.calls ++ [call] } caller request phase) :
    call = ⟨request, phase⟩ ∨ state.CallAt caller request phase := by
  simp only [CallAt, List.getElem?_append] at present
  split at present
  · exact .inr present
  · have listed := List.mem_of_getElem? present
    exact .inl (List.mem_singleton.mp listed).symm

/-- A submitted call waits only if its request was accepted, and holds no lock. -/
theorem submitPhase_cases (store : RuntimeEffectStore) (request : RuntimeEffectLifecycleRequest) :
    (submitPhase store request = .waiting ∧
      validateRuntimeEffectLifecycleRequest request = .ok ()) ∨
    ∃ answer, submitPhase store request = .answered answer := by
  unfold submitPhase
  split
  · exact .inr ⟨_, rfl⟩
  · rename_i accepted
    split
    · exact .inr ⟨_, rfl⟩
    · exact .inr ⟨_, rfl⟩
    · exact .inl ⟨rfl, accepted⟩

theorem mem_of_scalarOneOrNone {Row : Type} {rows : List Row} {row : Row}
    (found : scalarOneOrNone rows = .ok (some row)) : row ∈ rows := by
  unfold scalarOneOrNone at found
  split at found
  · cases found
  · cases found
    exact List.mem_singleton_self _
  · cases found

/-- Reporting storage errors alike changes no accepted value. -/
@[simp] theorem storageFailed_eq_ok_iff {Value : Type} {result : Except RuntimePortError Value}
    {value : Value} : storageFailed result = .ok value ↔ result = .ok value := by
  cases result <;> simp [storageFailed]

/-- A locked read that proceeds found a stored head that admits the request. -/
theorem lockedRead_proceed (proceeds : lockedRead store request = .ok (.proceed head)) :
    head ∈ store.heads ∧ head.inScope request.effectIdentity ∧ HeadAccepts head request := by
  simp only [lockedRead, bind_eq_ok_iff, storageFailed_eq_ok_iff] at proceeds
  obtain ⟨found, isHead, earlier, _, proceeds⟩ := proceeds
  cases earlier with
  | some row =>
      simp only [bind_eq_ok_iff, pure_eq_ok_iff] at proceeds
      obtain ⟨result, _, contradiction⟩ := proceeds
      cases contradiction
  | none =>
      cases found with
      | none => cases proceeds
      | some stored =>
          simp only [bind_eq_ok_iff, pure_eq_ok_iff, exists_unit_iff] at proceeds
          obtain ⟨accepts, same⟩ := proceeds
          obtain rfl : stored = head := by injection same
          have listed := mem_of_scalarOneOrNone isHead
          rw [List.mem_filter, decide_eq_true_eq] at listed
          exact ⟨listed.1, listed.2, checkHead_eq_ok_iff.mp accepts⟩

theorem lockPhase_cases (store : RuntimeEffectStore) (request : RuntimeEffectLifecycleRequest) :
    (∃ head, lockPhase store request = .locked head ∧ head ∈ store.heads ∧
      head.inScope request.effectIdentity ∧ HeadAccepts head request) ∨
    ∃ answer, lockPhase store request = .answered answer := by
  unfold lockPhase
  split
  · exact .inr ⟨_, rfl⟩
  · exact .inr ⟨_, rfl⟩
  · rename_i head proceeds
    exact .inl ⟨head, rfl, lockedRead_proceed proceeds⟩

/-! ## Locks -/

/-- What a caller that holds a row lock may rely on. -/
structure LockHeld (store : RuntimeEffectStore) (request : RuntimeEffectLifecycleRequest)
    (head : RuntimeEffectLifecycleHead) : Prop where
  valid : validateRuntimeEffectLifecycleRequest request = .ok ()
  stored : head ∈ store.heads
  scope : head.inScope request.effectIdentity
  accepts : HeadAccepts head request

/-- Waiting calls are validated, locked heads are still the stored ones, and no
two calls lock heads of one key. -/
structure LocksHeld (state : LifecycleState) : Prop where
  keys : KeysPaired state.store
  waiting : ∀ {caller request}, state.CallAt caller request .waiting →
    validateRuntimeEffectLifecycleRequest request = .ok ()
  locked : ∀ {caller request head}, state.CallAt caller request (.locked head) →
    LockHeld state.store request head
  exclusive : ∀ {caller other request request' head head'},
    state.CallAt caller request (.locked head) → state.CallAt other request' (.locked head') →
    caller ≠ other → head.key ≠ head'.key

theorem LocksHeld.commitStep (held : LocksHeld state) {caller : Nat}
    (call : state.CallAt caller request (.locked head))
    (flushed : flush state.store head request = .ok store) :
    CommitStep state.store head request store :=
  have lock := held.locked call
  ⟨lock.valid, lock.stored, lock.scope, lock.accepts, Flushed.of_flush flushed⟩

/-- Answering a call keeps the locks, over any store that kept the other heads. -/
theorem LocksHeld.answered (held : LocksHeld state) {caller : Nat} {call : LifecycleCall}
    (keys : KeysPaired store)
    (untouched : ∀ {other request head}, other ≠ caller →
      state.CallAt other request (.locked head) → head ∈ store.heads)
    {answer : Except RuntimePortError RuntimeEffectLifecycleCommitResult} :
    LocksHeld (LifecycleState.setPhase { state with store := store } caller call
      (.answered answer)) where
  keys := keys
  waiting := by
    intro other request present
    rcases present.of_setPhase with ⟨_, _, contradiction⟩ | ⟨_, earlier⟩
    · cases contradiction
    · exact held.waiting earlier
  locked := by
    intro other request head present
    rcases present.of_setPhase with ⟨_, _, contradiction⟩ | ⟨different, earlier⟩
    · cases contradiction
    · have lock := held.locked earlier
      exact ⟨lock.valid, untouched different earlier, lock.scope, lock.accepts⟩
  exclusive := by
    intro first second request request' head head' isFirst isSecond different
    rcases isFirst.of_setPhase with ⟨_, _, contradiction⟩ | ⟨_, first⟩
    · cases contradiction
    rcases isSecond.of_setPhase with ⟨_, _, contradiction⟩ | ⟨_, second⟩
    · cases contradiction
    exact held.exclusive first second different

/-- A read that locks a head found it unlocked. -/
theorem LocksHeld.read (held : LocksHeld state) {caller : Nat}
    (call : state.CallAt caller request .waiting)
    (unlocked : ∀ other ∈ state.calls, ¬ other.locks request.effectIdentity) :
    LocksHeld (state.setPhase caller ⟨request, .waiting⟩ (lockPhase state.store request)) := by
  rcases lockPhase_cases state.store request with ⟨head, phase, stored, scope, accepts⟩ |
    ⟨answer, phase⟩
  · rw [phase]
    -- Another lock on the same key would be on this very head, which was free.
    have free : ∀ {other request' head'}, state.CallAt other request' (.locked head') →
        head'.key ≠ head.key := by
      intro other request' head' present same
      have lock := held.locked present
      obtain rfl := held.keys.head_unique lock.stored stored same
      exact unlocked _ (List.mem_of_getElem? present) scope
    refine ⟨held.keys, ?_, ?_, ?_⟩
    · intro other request' present
      rcases present.of_setPhase with ⟨_, _, contradiction⟩ | ⟨_, earlier⟩
      · cases contradiction
      · exact held.waiting earlier
    · intro other request' head' present
      rcases present.of_setPhase with ⟨_, rfl, same⟩ | ⟨_, earlier⟩
      · cases same
        exact ⟨held.waiting call, stored, scope, accepts⟩
      · exact held.locked earlier
    · intro first second request' request'' head' head'' isFirst isSecond different
      rcases isFirst.of_setPhase with ⟨firstCaller, _, same⟩ | ⟨_, first⟩
      · cases same
        rcases isSecond.of_setPhase with ⟨secondCaller, _, _⟩ | ⟨_, second⟩
        · exact absurd (firstCaller.trans secondCaller.symm) different
        · exact (free second).symm
      · rcases isSecond.of_setPhase with ⟨_, _, same⟩ | ⟨_, second⟩
        · cases same
          exact free first
        · exact held.exclusive first second different
  · rw [phase]
    exact held.answered held.keys fun _ present => (held.locked present).stored

/-- A commit leaves the heads that other callers have locked as they read them. -/
theorem LocksHeld.committed (held : LocksHeld state) {caller : Nat}
    (call : state.CallAt caller request (.locked head))
    (flushed : flush state.store head request = .ok store)
    {answer : Except RuntimePortError RuntimeEffectLifecycleCommitResult} :
    LocksHeld (LifecycleState.setPhase { state with store := store } caller
      ⟨request, .locked head⟩ (.answered answer)) := by
  have step : StoreStep state.store (.commit head request) store := held.commitStep call flushed
  refine held.answered (step.keysPaired held.keys) ?_
  intro other request' head' different present
  rw [(Flushed.of_flush flushed).heads, List.mem_map]
  exact ⟨head', (held.locked present).stored, if_neg (held.exclusive present call different)⟩

/-- An enqueue adds a head no caller can have locked. -/
theorem LocksHeld.enqueued (held : LocksHeld state) {initial : RuntimeInitialEffectEnqueue}
    {requestedAt storedAt : DateTime}
    (inserted : InitiallyEnqueued state.store initial requestedAt storedAt store) :
    LocksHeld { state with store := store } where
  keys :=
    have step : StoreStep state.store (.enqueue initial requestedAt storedAt) store := inserted
    step.keysPaired held.keys
  waiting := held.waiting
  locked := by
    intro caller request head present
    have lock := held.locked present
    refine ⟨lock.valid, ?_, lock.scope, lock.accepts⟩
    rw [inserted.heads]
    exact List.mem_append_left _ lock.stored
  exclusive := held.exclusive

/-- A new call holds no lock yet. -/
theorem LocksHeld.submitted (held : LocksHeld state) :
    LocksHeld
      { state with calls := state.calls ++ [⟨request, submitPhase state.store request⟩] } := by
  have earlierLock : ∀ {caller request' head},
      LifecycleState.CallAt
        { state with calls := state.calls ++ [⟨request, submitPhase state.store request⟩] }
        caller request' (.locked head) →
      state.CallAt caller request' (.locked head) := by
    intro caller request' head present
    rcases present.of_snoc with same | earlier
    · injection same with _ phase
      rcases submitPhase_cases state.store request with ⟨waits, _⟩ | ⟨answer, answered⟩
      · rw [waits] at phase
        cases phase
      · rw [answered] at phase
        cases phase
    · exact earlier
  refine ⟨held.keys, ?_, fun present => held.locked (earlierLock present),
    fun first second => held.exclusive (earlierLock first) (earlierLock second)⟩
  intro caller request' present
  rcases present.of_snoc with same | earlier
  · injection same with sameRequest phase
    rcases submitPhase_cases state.store request with ⟨_, accepted⟩ | ⟨answer, answered⟩
    · exact sameRequest ▸ accepted
    · rw [answered] at phase
      cases phase
  · exact held.waiting earlier

theorem LocksHeld.step {state next : LifecycleState} (held : LocksHeld state)
    (step : state.next event = some next) : LocksHeld next := by
  cases EventEffect.of_next step with
  | enqueued inserted => exact held.enqueued inserted
  | submitted => exact held.submitted
  | read call unlocked => exact held.read call unlocked
  | committed call flushed => exact held.committed call flushed
  | refused _ => exact held.answered held.keys fun _ present => (held.locked present).stored

/-- Locks are held as read in every state any interleaving reaches. -/
def locksHeld : lifecycleSystem.Invariant where
  Holds := LocksHeld
  initial := by
    rintro _ rfl
    refine ⟨⟨List.nodup_nil, rfl⟩, ?_, ?_, ?_⟩
    · intro caller request present
      simp [LifecycleState.CallAt] at present
    · intro caller request head present
      simp [LifecycleState.CallAt] at present
    · intro caller other request request' head head' present
      simp [LifecycleState.CallAt] at present
  preserved held step := held.step step

/-! ## Explanation by atomic writes -/

/-- Every accepted flush meets the guard. -/
def guardedFlush (guard : CommitGuard) (state : LifecycleState) (event : LifecycleEvent)
    (_ : LifecycleState) : Prop :=
  ∀ caller head request store, event = .flush caller →
    state.CallAt caller request (.locked head) →
    flush state.store head request = .ok store → guard head request

/-- Every interleaving in which accepted flushes meet the guard. -/
def guardedLifecycle (guard : CommitGuard) : TransitionSystem LifecycleState LifecycleEvent :=
  lifecycleSystem.restrict (guardedFlush guard)

/-- An event leaves the store alone or is one atomic write that meets the guard. -/
theorem LocksHeld.storeStep {state next : LifecycleState} (held : LocksHeld state)
    (step : (guardedLifecycle guard).Step state event next) :
    next.store = state.store ∨ ∃ write, StoreStep state.store write next.store ∧
      guardedWrite guard state.store write next.store := by
  obtain ⟨happened, guarded⟩ := step
  cases EventEffect.of_next happened with
  | @enqueued initial requestedAt storedAt store inserted =>
      refine .inr ⟨.enqueue initial requestedAt storedAt, inserted, ?_⟩
      rintro head request ⟨⟩
  | submitted => exact .inl rfl
  | read => exact .inl rfl
  | @committed caller request head store call flushed =>
      refine .inr ⟨.commit head request, held.commitStep call flushed, ?_⟩
      intro head' request' same
      injection same with sameHead sameRequest
      subst sameHead sameRequest
      exact guarded caller head request store rfl call flushed
  | refused => exact .inl rfl

/-- The store of every interleaving is explained by atomic writes. -/
def atomicWrites (guard : CommitGuard) :
    (guardedLifecycle guard).Simulation (effectStoreSystem.restrict (guardedWrite guard)) where
  Explains store state := state.store = store ∧ LocksHeld state
  initial := by
    rintro _ rfl
    exact ⟨{}, rfl, rfl, locksHeld.initial _ rfl⟩
  step := by
    rintro _ state event next ⟨rfl, held⟩ step
    rcases held.storeStep step with same | ⟨write, atomic, guarded⟩
    · exact ⟨[], state.store, .refl, same, held.step step.1⟩
    · exact ⟨[write], next.store, .step .refl ⟨atomic, guarded⟩, rfl, held.step step.1⟩

theorem store_reachable (reachable : (guardedLifecycle guard).Reachable state) :
    (effectStoreSystem.restrict (guardedWrite guard)).Reachable state.store := by
  obtain ⟨store, atomic, same, _⟩ := (atomicWrites guard).of_reachable reachable
  exact same ▸ atomic

theorem unguarded {start state : LifecycleState}
    (steps : lifecycleSystem.Steps start events state) :
    (guardedLifecycle fun _ _ => True).Steps start events state :=
  steps.to_restrict fun _ _ _ _ _ _ _ _ _ _ => trivial

theorem logsKept_of_steps (steps : lifecycleSystem.Steps {} events state) :
    LogsKept state.store := by
  have kept : StoreKept (fun _ => True) state.store :=
    (storeKept (fun _ _ => True) fun _ _ _ _ => trivial).of_reachable
      (store_reachable ⟨{}, events, rfl, unguarded steps⟩)
  exact kept.logs

/-! ## Relations that a guard characterises -/

/-- Every commit relates the revision its head showed to the one it adds exactly when
it meets the guard. -/
def CharacterisedBy (guard : CommitGuard)
    (Relation : RuntimeEffectLifecycleRevision → RuntimeEffectLifecycleRevision → Prop) : Prop :=
  ∀ {head request last}, validateRuntimeEffectLifecycleRequest request = .ok () →
    HeadAccepts head request → Represents head last →
    (Relation last (revisionOf request request.requestedAt) ↔ guard head request)

/-- Consecutive revisions of every effect are related. -/
def ChainsRelated
    (Relation : RuntimeEffectLifecycleRevision → RuntimeEffectLifecycleRevision → Prop)
    (store : RuntimeEffectStore) : Prop :=
  ∀ head ∈ store.heads, (store.revisionsOf head.key).IsChain Relation

section ChainsRelated

variable {guard : CommitGuard}
  {Relation : RuntimeEffectLifecycleRevision → RuntimeEffectLifecycleRevision → Prop}
  {state : LifecycleState}

theorem chainsRelated_of_guarded (characterised : CharacterisedBy guard Relation)
    (reachable : (guardedLifecycle guard).Reachable state) :
    ChainsRelated Relation state.store := by
  have established : EstablishedBy guard Relation :=
    fun valid _ accepts guarded shown => (characterised valid accepts shown).mpr guarded
  exact ((relatedLogs established).of_reachable (store_reachable reachable)).related

/-- Revisions that are related after an event were related before it. -/
theorem ChainsRelated.before {next : LifecycleState} (held : LocksHeld state)
    (step : lifecycleSystem.Step state event next) (related : ChainsRelated Relation next.store) :
    ChainsRelated Relation state.store := by
  have guarded : (guardedLifecycle fun _ _ => True).Step state event next :=
    ⟨step, fun _ _ _ _ _ _ _ => trivial⟩
  rcases held.storeStep guarded with same | ⟨write, atomic, _⟩
  · exact same ▸ related
  · intro head stored
    obtain ⟨current, isCurrent, sameKey⟩ := atomic.head_kept stored
    obtain ⟨added, extended⟩ := revisionsOf_prefix atomic.revisions_prefix head.key
    have later := related current isCurrent
    rw [sameKey, ← extended] at later
    exact later.left_of_append

/-- Where the characterised relation holds, every commit met the guard. -/
theorem guarded_of_chainsRelated (characterised : CharacterisedBy guard Relation)
    (steps : lifecycleSystem.Steps {} events state) (related : ChainsRelated Relation state.store) :
    (guardedLifecycle guard).Steps {} events state := by
  induction steps with
  | refl => exact .refl
  | @step events state event next prior transition ih =>
      have held : LocksHeld state := locksHeld.of_steps (locksHeld.initial _ rfl) prior
      have logs := logsKept_of_steps prior
      refine .step (ih (related.before held transition)) ⟨transition, ?_⟩
      rintro caller head request store rfl call flushed
      have committed := held.commitStep call flushed
      have stored : next.store = store := by
        have happened : state.next (.flush caller) = some next := transition
        simp only [LifecycleState.next, show state.calls[caller]? = _ from call, flushed,
          Option.some.injEq] at happened
        rw [← happened]
        rfl
      obtain ⟨last, ends, shown⟩ := (logs.logs head committed.stored).shown
      have written : StoreStep state.store (.commit head request) store := committed
      obtain ⟨current, isCurrent, sameKey⟩ := written.head_kept committed.stored
      have chain := related current (stored ▸ isCurrent)
      rw [stored, sameKey, revisionsOf_of_snoc committed.flushed.revisions, revisionOf_key,
        if_pos committed.scope.1.symm, List.isChain_append] at chain
      exact (characterised committed.valid committed.accepts shown).mp (chain.2.2 last ends _ rfl)

theorem chainsRelated_iff (characterised : CharacterisedBy guard Relation)
    (steps : lifecycleSystem.Steps {} events state) :
    ChainsRelated Relation state.store ↔ (guardedLifecycle guard).Steps {} events state :=
  ⟨guarded_of_chainsRelated characterised steps,
    fun guarded => chainsRelated_of_guarded characterised ⟨{}, events, rfl, guarded⟩⟩

end ChainsRelated

/-- Revision rows survive every later event. -/
theorem revisions_prefix_of_steps {state final : LifecycleState} (held : LocksHeld state)
    (steps : (guardedLifecycle guard).Steps state events final) :
    state.store.revisions <+: final.store.revisions := by
  refine TransitionSystem.Steps.related
    (fun earlier later : LifecycleState => earlier.store.revisions <+: later.store.revisions)
    (fun _ => List.prefix_refl _) (fun earlier later => List.IsPrefix.trans earlier later)
    (locksHeld.restrict (guardedFlush guard)) ?_ held steps
  intro state event next held step
  rcases LocksHeld.storeStep held step with same | ⟨write, atomic, _⟩
  · exact same ▸ List.prefix_refl _
  · exact atomic.revisions_prefix

/-! ## Guards that read the store -/

/-- A condition on what is committed onto which head of which store. -/
abbrev StoreGuard := RuntimeEffectStore → CommitGuard

/-- Every interleaving in which accepted flushes meet the guard over the store they
write to. -/
def governedLifecycle (guard : StoreGuard) : TransitionSystem LifecycleState LifecycleEvent :=
  lifecycleSystem.restrict fun state event next =>
    guardedFlush (guard state.store) state event next

/-- A property of stores that every governed write keeps holds along every governed
run. -/
def governedInvariant (guard : StoreGuard) (Property : RuntimeEffectStore → Prop)
    (empty : Property {})
    (kept : ∀ {store next write}, StoreKept (fun _ => True) store → Property store →
      StoreStep store write next → guardedWrite (guard store) store write next →
      Property next) : (governedLifecycle guard).Invariant where
  Holds state := LocksHeld state ∧ StoreKept (fun _ => True) state.store ∧ Property state.store
  initial := by
    rintro _ rfl
    exact ⟨locksHeld.initial _ rfl, .empty, empty⟩
  preserved := by
    rintro state event next ⟨held, store, property⟩ step
    refine ⟨held.step step.1, ?_⟩
    have governed : (guardedLifecycle (guard state.store)).Step state event next := step
    rcases held.storeStep governed with same | ⟨write, atomic, guarded⟩
    · rw [same]
      exact ⟨store, property⟩
    · exact ⟨⟨atomic.keysPaired store.keys, atomic.logsKept store.logs,
        atomic.rowsKept store.rows fun _ _ _ _ => trivial⟩, kept store property atomic guarded⟩

/-! ## Executable runs -/

/-- The guard of a flush, checked on the head its caller has locked. -/
def LifecycleState.admits (state : LifecycleState) (guard : CommitGuard) : LifecycleEvent → Prop
  | .flush caller =>
      match state.calls[caller]? with
      | some ⟨request, .locked head⟩ => guard head request
      | _ => True
  | _ => True

theorem LifecycleState.admits.guarded {state next : LifecycleState}
    (admitted : state.admits guard event) :
    guardedFlush guard state event next := by
  rintro caller head request store rfl call _
  simp only [admits] at admitted
  rw [call] at admitted
  exact admitted

instance (state : LifecycleState) (guard : CommitGuard)
    [∀ head request, Decidable (guard head request)] (event : LifecycleEvent) :
    Decidable (state.admits guard event) := by
  unfold LifecycleState.admits
  split
  · split <;> infer_instance
  · infer_instance

/-- Run events in order, each of which must be admitted and must happen. -/
def LifecycleState.run (guard : CommitGuard) [∀ head request, Decidable (guard head request)] :
    LifecycleState → List LifecycleEvent → Option LifecycleState
  | state, [] => some state
  | state, event :: rest =>
      if state.admits guard event then
        match state.next event with
        | some next => next.run guard rest
        | none => none
      else none

/-- What a run returns, the guarded system reaches. -/
theorem steps_of_run [∀ head request, Decidable (guard head request)] {state final : LifecycleState}
    (ran : state.run guard events = some final) :
    (guardedLifecycle guard).Steps state events final := by
  induction events generalizing state with
  | nil =>
      cases ran
      exact .refl
  | cons event rest ih =>
      simp only [LifecycleState.run] at ran
      split at ran
      · rename_i admitted
        split at ran
        · rename_i next happened
          exact .cons ⟨happened, admitted.guarded⟩ (ih ran)
        · cases ran
      · cases ran

theorem reachable_of_run [∀ head request, Decidable (guard head request)]
    (ran : (LifecycleState.run guard {} events).isSome) :
    (guardedLifecycle guard).Reachable ((LifecycleState.run guard {} events).get ran) :=
  ⟨{}, events, rfl, steps_of_run (Option.some_get ran).symm⟩

/-- Run events in order under a guard that reads the store. -/
def LifecycleState.governedRun (guard : StoreGuard)
    [∀ store head request, Decidable (guard store head request)] :
    LifecycleState → List LifecycleEvent → Option LifecycleState
  | state, [] => some state
  | state, event :: rest =>
      if state.admits (guard state.store) event then
        match state.next event with
        | some next => next.governedRun guard rest
        | none => none
      else none

/-- What a governed run returns, the governed system reaches. -/
theorem steps_of_governedRun {guard : StoreGuard}
    [∀ store head request, Decidable (guard store head request)] {state final : LifecycleState}
    (ran : state.governedRun guard events = some final) :
    (governedLifecycle guard).Steps state events final := by
  induction events generalizing state with
  | nil =>
      cases ran
      exact .refl
  | cons event rest ih =>
      simp only [LifecycleState.governedRun] at ran
      split at ran
      · rename_i admitted
        split at ran
        · rename_i next happened
          exact .cons ⟨happened, admitted.guarded⟩ (ih ran)
        · cases ran
      · cases ran

namespace Sample

/-- The lease a worker takes at ten for ten instants. -/
def claim : RuntimeEffectClaim where
  runtimeEffectClaimId := 71
  runtimeEffectId := 3
  tenantId := 1
  organizationId := 2
  expectedLifecycleRevision := one
  claimantReference := "worker-1"
  leaseId := 72
  clockReference := "clock"
  claimedAt := 10
  expiresAt := 20
  claimDigestReference := "claim-1"

/-- The revision the claim is recorded in. -/
def claimedRecord : RuntimeEffectLifecycleRecord where
  runtimeEffectLifecycleRecordId := 32
  runtimeEffectId := 3
  lifecycleRevision := .nearest 2
  status := .claimed
  previousLifecycleRecordId := some 31
  previousLifecycleDigestReference := some "revision-1"
  runtimeEffectClaimId := some 71
  recordedAt := 10
  lifecycleDigestReference := "revision-2"

theorem claimedAtOnce : (10 : DateTime) ≤ 10 := le_refl 10

/-- The claim call of the first worker. -/
def claimRequest : RuntimeEffectLifecycleRequest :=
  .claim
    { runtimeEffectClaimRequestId := 61
      contractVersion := contractVersion
      effectIdentity := identity
      previousLifecycleRecord := enqueuedRecord
      claim := claim
      claimedLifecycleRecord := claimedRecord
      receiptFact := receiptFact 52 claimedRecord
      clockReference := "clock"
      observedAt := 10
      requestedAt := 10
      requestTime := claimedAtOnce }

/-- The whole call of one caller. -/
def call (caller : Nat) (request : RuntimeEffectLifecycleRequest) : List LifecycleEvent :=
  [.submit request, .lock caller, .flush caller]

/-- The effect is enqueued and claimed. -/
def claimedRun : List LifecycleEvent := .enqueue initial 0 0 :: call 0 claimRequest

/-- The attempt the worker starts under its claim. -/
def attempt : RuntimeEffectDeliveryAttempt where
  runtimeEffectDeliveryAttemptId := 81
  runtimeEffectId := 3
  attemptNumber := one
  runtimeEffectClaimId := 71
  leaseId := 72
  runtimeAuthorityBundleId := 19
  runtimeAdmissionDecisionId := 20
  permitReferenceIds := [22]
  policyRevision := one
  registryRevision := one
  stateRevision := one
  auditRevision := one
  clockReference := "clock"
  requestedAt := 11
  deadline := 18
  attemptDigestReference := "attempt-1"
  orderedPermits := outbox.orderedPermits

/-- The call of the adapter. -/
def invocation : RuntimeEffectDeliveryInvocation where
  runtimeEffectDeliveryInvocationId := 93
  envelope := envelope
  claim := claim
  attempt := attempt

/-- The revision the attempt is recorded in. -/
def deliveringRecord : RuntimeEffectLifecycleRecord where
  runtimeEffectLifecycleRecordId := 33
  runtimeEffectId := 3
  lifecycleRevision := .nearest 3
  status := .delivering
  previousLifecycleRecordId := some 32
  previousLifecycleDigestReference := some "revision-2"
  runtimeEffectClaimId := some 71
  runtimeEffectDeliveryAttemptId := some 81
  recordedAt := 11
  lifecycleDigestReference := "revision-3"

/-- The append call that records the attempt. -/
def deliveringRequest : RuntimeEffectLifecycleRequest :=
  .append
    { runtimeEffectLifecycleAppendRequestId := 62
      contractVersion := contractVersion
      append :=
        { effectIdentity := identity
          previousLifecycleRecord := claimedRecord
          lifecycleRecord := deliveringRecord
          claim := some claim
          attempt := some attempt
          receiptFact := receiptFact 53 deliveringRecord }
      clockReference := "clock"
      requestedAt := 11 }

/-- The effect is enqueued, claimed and under delivery. -/
def deliveringRun : List LifecycleEvent := claimedRun ++ call 1 deliveringRequest

end Sample

end PolicyOS.Runtime
