import PolicyOS.Runtime.Orchestration.StateAppend

/-!
# Appended audit trails

Only the last step of a trail is compared with the trail before it. A trail that is accepted
is a chain of events, each of which names the one before it, and a sequence of trails in which
each is accepted as an append to the one before is a history of one trail: its events are never
changed or reordered, and neither its times nor its classification go back.
-/

namespace PolicyOS.Runtime

open Foundation

/-! ## One trail -/

/-- An event names the event before it, and goes back neither in time nor in classification. -/
structure EventFollows (previous event : RuntimeAuditEvent) : Prop where
  namesId : event.previousEventId = some previous.runtimeAuditEventId
  namesDigest : event.previousEventDigestReference = some previous.eventDigestReference
  later : previous.occurredAt ≤ event.occurredAt
  covers : notLower event.scope.classification previous.scope.classification

/-- Goes back neither in time nor in classification. -/
def NotBefore (earlier later : RuntimeAuditEvent) : Prop :=
  earlier.occurredAt ≤ later.occurredAt ∧
    notLower later.scope.classification earlier.scope.classification

instance notBefore_trans : Trans NotBefore NotBefore NotBefore where
  trans first second := ⟨first.1.trans second.1, notLower_trans second.2 first.2⟩

/-- A trail whose revision counts its events, which are chained and all different. -/
structure TrailSound (trail : RuntimeAuditTrail) : Prop where
  revision : trail.trailRevision.val = trail.events.length
  chained : trail.events.IsChain EventFollows
  ordered : trail.events.Pairwise NotBefore
  distinctIds : (trail.events.map (·.runtimeAuditEventId)).Nodup
  distinctDigests : (trail.events.map (·.eventDigestReference)).Nodup

variable {trail previous current : RuntimeAuditTrail} {event before : RuntimeAuditEvent}
  {events : List RuntimeAuditEvent} {trails : List RuntimeAuditTrail}

theorem validateAuditPredecessor_eq_ok_iff :
    validateAuditPredecessor event before = .ok () ↔ EventFollows before event := by
  simp only [validateAuditPredecessor, bind_eq_ok_iff, exists_unit_iff, rejectIf_eq_ok_iff, not_or,
    not_not, not_lt]
  constructor
  · rintro ⟨⟨namesId, namesDigest⟩, later, covers⟩
    exact ⟨namesId, namesDigest, later, covers⟩
  · rintro ⟨namesId, namesDigest, later, covers⟩
    exact ⟨⟨namesId, namesDigest⟩, later, covers⟩

/-- An event that is read becomes the predecessor of the next, and follows its own. -/
theorem follows_of_read {progress next : TrailProgress}
    (read : validateTrailEvent trail progress event = .ok next) :
    next.previous = some event ∧ ∀ own ∈ progress.previous, EventFollows own event := by
  simp only [validateTrailEvent, bind_eq_ok_iff, exists_unit_iff] at read
  obtain ⟨-, -, -, -, read⟩ := read
  cases own : progress.previous with
  | none =>
      simp only [own, bind_eq_ok_iff, exists_unit_iff, pure_eq_ok_iff] at read
      obtain ⟨-, rfl⟩ := read
      exact ⟨rfl, fun _ isOwn => absurd isOwn (Option.not_mem_none _)⟩
  | some before =>
      simp only [own, bind_eq_ok_iff, exists_unit_iff, pure_eq_ok_iff] at read
      obtain ⟨follows, rfl⟩ := read
      refine ⟨rfl, fun _ isOwn => ?_⟩
      obtain rfl := Option.some.inj isOwn
      exact validateAuditPredecessor_eq_ok_iff.mp follows

/-- The events that are read are a chain, with the event before them. -/
theorem chained_of_read {progress final : TrailProgress}
    (read : events.foldlM (validateTrailEvent trail) progress = .ok final) :
    (progress.previous.toList ++ events).IsChain EventFollows := by
  induction events generalizing progress with
  | nil => cases progress.previous <;> simp
  | cons event rest ih =>
      rw [List.foldlM_cons, bind_eq_ok_iff] at read
      obtain ⟨next, first, later⟩ := read
      obtain ⟨isEvent, follows⟩ := follows_of_read first
      have chained := ih later
      rw [isEvent] at chained
      cases own : progress.previous with
      | none => exact chained
      | some before => exact List.isChain_cons_cons.mpr ⟨follows before own, chained⟩

theorem trailSound_of_validate (valid : validateRuntimeAuditTrail trail = .ok ()) :
    TrailSound trail := by
  simp only [validateRuntimeAuditTrail, bind_eq_ok_iff, exists_unit_iff, rejectIf_eq_ok_iff,
    not_or, not_not] at valid
  obtain ⟨revision, ⟨distinctIds, distinctDigests⟩, _, read, -⟩ := valid
  have chained : trail.events.IsChain EventFollows := chained_of_read read
  have ordered : trail.events.IsChain NotBefore :=
    chained.imp fun _ _ follows => ⟨follows.later, follows.covers⟩
  exact ⟨revision, chained, ordered.pairwise, distinctIds, distinctDigests⟩

theorem updatedAt_of_validate (valid : validateRuntimeAuditTrail trail = .ok ()) :
    trail.updatedAt = trail.latest.occurredAt := by
  simp only [validateRuntimeAuditTrail, bind_eq_ok_iff, exists_unit_iff, rejectIf_eq_ok_iff,
    not_not] at valid
  obtain ⟨-, -, _, -, -, updated⟩ := valid
  exact updated

/-! ## A sequence of trails -/

/-- A later trail keeps the events of an earlier one, and goes back neither in time nor in
classification. -/
structure TrailExtends (earlier later : RuntimeAuditTrail) : Prop where
  kept : earlier.events <+: later.events
  created : later.createdAt = earlier.createdAt
  updated : earlier.updatedAt ≤ later.updatedAt
  covers : notLower later.scope.classification earlier.scope.classification

instance trailExtends_trans : Trans TrailExtends TrailExtends TrailExtends where
  trans first second :=
    { kept := first.kept.trans second.kept
      created := second.created.trans first.created
      updated := first.updated.trans second.updated
      covers := notLower_trans second.covers first.covers }

theorem accepted_of_append (appended : validateRuntimeAuditAppend previous current = .ok ()) :
    validateRuntimeAuditTrail previous = .ok () ∧ validateRuntimeAuditTrail current = .ok () := by
  simp only [validateRuntimeAuditAppend, bind_eq_ok_iff, exists_unit_iff] at appended
  exact ⟨appended.1, appended.2.1⟩

/-- An append extends the trail before it. -/
theorem extends_of_append (appended : validateRuntimeAuditAppend previous current = .ok ()) :
    TrailExtends previous current := by
  obtain ⟨first, second⟩ := accepted_of_append appended
  simp only [validateRuntimeAuditAppend, bind_eq_ok_iff, exists_unit_iff, rejectIf_eq_ok_iff,
    not_not] at appended
  obtain ⟨-, -, identity, -, -, events, -, -, covers⟩ := appended
  have kept : previous.events <+: current.events := events ▸ List.dropLast_prefix _
  refine ⟨kept, congrArg (fun facts => facts.2.2) identity, ?_, covers⟩
  rw [updatedAt_of_validate first, updatedAt_of_validate second]
  -- The last event of the earlier trail is one of the later trail, which its own last follows.
  have present : previous.latest ∈ current.events := kept.subset (List.getLast_mem _)
  have ordered := (trailSound_of_validate second).ordered
  rw [← List.dropLast_concat_getLast current.nonempty, List.pairwise_append] at ordered
  rw [← List.dropLast_concat_getLast current.nonempty, List.mem_append,
    List.mem_singleton] at present
  rcases present with earlier | last
  · exact (ordered.2.2 _ earlier _ (List.mem_singleton_self _)).1
  · exact (congrArg (·.occurredAt) last).le

/-- Both ends of every append in a sequence of trails are accepted. -/
theorem accepted_of_appends {first : RuntimeAuditTrail}
    (appended : (first :: trails).IsChain fun previous current =>
      validateRuntimeAuditAppend previous current = .ok ()) :
    (∀ trail ∈ trails, validateRuntimeAuditTrail trail = .ok ()) ∧
      (trails ≠ [] → validateRuntimeAuditTrail first = .ok ()) := by
  induction trails generalizing first with
  | nil => exact ⟨nofun, fun some_ => absurd rfl some_⟩
  | cons second rest ih =>
      obtain ⟨step, later⟩ := List.isChain_cons_cons.mp appended
      obtain ⟨before, after⟩ := accepted_of_append step
      exact ⟨List.forall_mem_cons.mpr ⟨after, (ih later).1⟩, fun _ => before⟩

/-- In a sequence of trails, each accepted as an append to the one before, every trail extends
all earlier ones, and is sound; a trail without any other is sound where it is accepted itself. -/
theorem appends_sound
    (appended : trails.IsChain fun previous current =>
      validateRuntimeAuditAppend previous current = .ok ()) :
    trails.Pairwise TrailExtends ∧ ∀ trail ∈ trails,
      (trails = [trail] → validateRuntimeAuditTrail trail = .ok ()) → TrailSound trail := by
  constructor
  · have extended : trails.IsChain TrailExtends := appended.imp fun _ _ => extends_of_append
    exact extended.pairwise
  · intro trail isTrail alone
    apply trailSound_of_validate
    cases trails with
    | nil => cases isTrail
    | cons first rest =>
        obtain ⟨later, before⟩ := accepted_of_appends appended
        rcases List.mem_cons.mp isTrail with rfl | isLater
        · by_cases single : rest = []
          · exact alone (by rw [single])
          · exact before single
        · exact later _ isLater

/-- The trail of an execution that succeeds is appended to. -/
theorem appends_sound_succeeded :
    TrailExtends CommittedTransition.auditTrail CommittedTransition.appendedTrail ∧
      TrailSound CommittedTransition.appendedTrail := by
  obtain ⟨extended, sound⟩ := @appends_sound
    [CommittedTransition.auditTrail, CommittedTransition.appendedTrail]
    (List.isChain_cons_cons.mpr ⟨by decide +kernel, .singleton _⟩)
  have two := List.mem_cons_of_mem CommittedTransition.auditTrail
    (List.mem_singleton_self CommittedTransition.appendedTrail)
  exact ⟨(List.pairwise_cons.mp extended).1 _ (List.mem_singleton_self _),
    sound _ two fun single => absurd (congrArg List.length single) (Nat.succ_ne_self 1)⟩

end PolicyOS.Runtime
