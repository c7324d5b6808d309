import PolicyOS.Runtime.Persistence.LifecycleSystem

/-!
# Tenant isolation

One call of one tenant, over two stores that hold the same rows of that tenant.
The head is selected in its scope, but the lookup of an earlier answer goes by the
request identifier alone, and the receipt and observation identifiers are primary
keys across tenants. `interference` names what other tenants' rows can do to a
call through these, and the two outcomes are the same exactly when they do the
same to it in both stores.
-/

namespace PolicyOS.Runtime

open Foundation

/-! ## One whole call -/

/-- What a call is answered, and the rows it leaves. -/
abbrev CallOutcome :=
  Except RuntimePortError RuntimeEffectLifecycleCommitResult × RuntimeEffectStore

/-- The second transaction of a call. -/
def lockedCall (store : RuntimeEffectStore) (request : RuntimeEffectLifecycleRequest) :
    CallOutcome :=
  match lockedRead store request with
  | .error error => (.error error, store)
  | .ok (.replay result) => (.ok result, store)
  | .ok (.proceed head) =>
      match flush store head request with
      | .error error => (.error error, store)
      | .ok next => (appended request, next)

/-- A claim or append call that no other transaction comes between. -/
def commitCall (store : RuntimeEffectStore) (request : RuntimeEffectLifecycleRequest) :
    CallOutcome :=
  match validateRuntimeEffectLifecycleRequest request with
  | .error error => (.error error, store)
  | .ok () =>
      match firstLookup store request with
      | .error error => (.error error, store)
      | .ok (some result) => (.ok result, store)
      | .ok none => lockedCall store request

/-! ## The rows of one tenant -/

/-- Which tenants and organizations a view of the store shows. -/
abbrev TenantScope := UUID → UUID → Bool

/-- The tenant and organization of an effect. -/
def RuntimeEffectIdentity.tenant (identity : RuntimeEffectIdentity) : TenantScope :=
  fun tenantId organizationId =>
    decide (tenantId = identity.tenantId ∧ organizationId = identity.organizationId)

/-- Every other tenant and organization. -/
def RuntimeEffectIdentity.otherTenants (identity : RuntimeEffectIdentity) : TenantScope :=
  fun tenantId organizationId => !identity.tenant tenantId organizationId

/-- The rows of the tenants in scope. -/
def RuntimeEffectStore.within (store : RuntimeEffectStore) (scope : TenantScope) :
    RuntimeEffectStore where
  effects := store.effects.filter fun row => scope row.tenantId row.organizationId
  heads := store.heads.filter fun row => scope row.tenantId row.organizationId
  revisions := store.revisions.filter fun row => scope row.tenantId row.organizationId
  observations := store.observations.filter fun row => scope row.tenantId row.organizationId

/-- The rows in scope that answer to the identifier of a request. -/
def RuntimeEffectStore.answering (store : RuntimeEffectStore)
    (request : RuntimeEffectLifecycleRequest) : List RuntimeEffectLifecycleRevision :=
  store.revisions.filter (·.answers request)

/-- The rows in scope reject a revision row: its effect row should be in scope and is
missing, or a stored row conflicts. -/
def RuntimeEffectStore.rejectsRevisionWithin (store : RuntimeEffectStore) (scope : TenantScope)
    (row : RuntimeEffectLifecycleRevision) : Prop :=
  (scope row.tenantId row.organizationId = true ∧
    (store.within scope).scopeMissing row.key row.classification) ∨
  ∃ stored ∈ (store.within scope).revisions, row.conflictsWith stored

instance (store : RuntimeEffectStore) (scope : TenantScope)
    (row : RuntimeEffectLifecycleRevision) : Decidable (store.rejectsRevisionWithin scope row) :=
  inferInstanceAs (Decidable (_ ∧ _ ∨ _))

/-- The rows in scope reject an observation row. Its scope is its own, and need not be
that of the request. -/
def RuntimeEffectStore.rejectsObservationWithin (store : RuntimeEffectStore) (scope : TenantScope)
    (row : RuntimeEffectReconciliationObservationRecord) : Prop :=
  (scope row.tenantId row.organizationId = true ∧
    (store.within scope).scopeMissing ⟨row.tenantId, row.organizationId, row.runtimeEffectId⟩
      row.classification) ∨
  ∃ stored ∈ (store.within scope).observations, row.conflictsWith stored

instance (store : RuntimeEffectStore) (scope : TenantScope)
    (row : RuntimeEffectReconciliationObservationRecord) :
    Decidable (store.rejectsObservationWithin scope row) :=
  inferInstanceAs (Decidable (_ ∧ _ ∨ _))

/-- The rows in scope reject a row the request adds. -/
def RuntimeEffectStore.rejectsWithin (store : RuntimeEffectStore) (scope : TenantScope)
    (request : RuntimeEffectLifecycleRequest) : Prop :=
  store.rejectsRevisionWithin scope (revisionOf request request.requestedAt) ∨
  ∃ added ∈ observationRow request, store.rejectsObservationWithin scope added

instance (store : RuntimeEffectStore) (scope : TenantScope)
    (request : RuntimeEffectLifecycleRequest) : Decidable (store.rejectsWithin scope request) :=
  inferInstanceAs (Decidable (_ ∨ _))

/-- On the tenant's own rows the request would be committed. -/
def RuntimeEffectStore.admitsOwn (store : RuntimeEffectStore)
    (request : RuntimeEffectLifecycleRequest) : Prop :=
  (∃ head ∈ (store.within request.effectIdentity.tenant).heads,
    lockedRead (store.within request.effectIdentity.tenant) request = .ok (.proceed head)) ∧
  ¬ store.rejectsWithin request.effectIdentity.tenant request

instance (store : RuntimeEffectStore) (request : RuntimeEffectLifecycleRequest) :
    Decidable (store.admitsOwn request) :=
  inferInstanceAs (Decidable (_ ∧ _))

/-- What the rows of other tenants do to a call: nothing, answer it alone, answer
it beside another row, or reject what it would write. -/
inductive Interference
  | absent | answered | ambiguous | collides
  deriving DecidableEq, Repr

/-- What the rows of other tenants do to a call of this request. -/
def RuntimeEffectStore.interference (store : RuntimeEffectStore)
    (request : RuntimeEffectLifecycleRequest) : Interference :=
  match (store.within request.effectIdentity.otherTenants).answering request,
    (store.within request.effectIdentity.tenant).answering request with
  | [], _ =>
      if store.admitsOwn request ∧ store.rejectsWithin request.effectIdentity.otherTenants request
      then .collides else .absent
  | [_], [] => .answered
  | _, _ => .ambiguous

/-- Both calls are answered alike and leave the tenant the same rows. -/
structure SameForTenant (left right : RuntimeEffectStore)
    (request : RuntimeEffectLifecycleRequest) : Prop where
  answer : (commitCall left request).1 = (commitCall right request).1
  rows : (commitCall left request).2.within request.effectIdentity.tenant =
    (commitCall right request).2.within request.effectIdentity.tenant

/-! ## Reads -/

section Reads

variable {store left right : RuntimeEffectStore} {request : RuntimeEffectLifecycleRequest}

/-- Where no other tenant's row answers, the tenant's own rows are all that answer. -/
theorem answering_own
    (alone : (store.within request.effectIdentity.otherTenants).answering request = []) :
    store.answering request =
      (store.within request.effectIdentity.tenant).answering request := by
  simp only [RuntimeEffectStore.answering, RuntimeEffectStore.within, List.filter_filter,
    List.filter_eq_nil_iff] at alone ⊢
  refine List.filter_congr fun row stored => ?_
  have own := alone row stored
  simp only [RuntimeEffectIdentity.otherTenants, Bool.and_eq_true, not_and] at own
  by_cases answers : row.answers request
  · simpa [answers] using own
  · simp [answers]

/-- The head of a scope is among the tenant's own rows. -/
theorem scopedHeads_own :
    store.heads.filter (·.inScope request.effectIdentity) =
      (store.within request.effectIdentity.tenant).heads.filter
        (·.inScope request.effectIdentity) := by
  simp only [RuntimeEffectStore.within, List.filter_filter]
  refine List.filter_congr fun head _ => ?_
  by_cases scope : head.inScope request.effectIdentity
  · have key := scope.1
    simp only [RuntimeEffectLifecycleHead.key, RuntimeEffectIdentity.key,
      EffectKey.mk.injEq] at key
    simp [scope, RuntimeEffectIdentity.tenant, key.1, key.2.1]
  · simp [scope]

/-- Reads see no other tenant's row unless one answers. -/
theorem lookups_own
    (alone : (store.within request.effectIdentity.otherTenants).answering request = []) :
    firstLookup store request =
        firstLookup (store.within request.effectIdentity.tenant) request ∧
      lockedRead store request =
        lockedRead (store.within request.effectIdentity.tenant) request := by
  have answering := answering_own alone
  unfold RuntimeEffectStore.answering at answering
  constructor
  · unfold firstLookup existing
    rw [answering]
  · unfold lockedRead existing
    rw [answering, scopedHeads_own]

end Reads

/-! ## Writes -/

section Writes

variable {store left right : RuntimeEffectStore} {request : RuntimeEffectLifecycleRequest}

/-- A row is among those a test selects or among the rest. -/
theorem exists_mem_filter_or {Row : Type} {rows : List Row} (selected : Row → Bool)
    {property : Row → Prop} :
    (∃ row ∈ rows, property row) ↔
      (∃ row ∈ rows.filter selected, property row) ∨
        ∃ row ∈ rows.filter (fun row => !selected row), property row := by
  constructor
  · rintro ⟨row, stored, holds⟩
    cases chosen : selected row with
    | true => exact .inl ⟨row, List.mem_filter.mpr ⟨stored, chosen⟩, holds⟩
    | false => exact .inr ⟨row, List.mem_filter.mpr ⟨stored, by simp [chosen]⟩, holds⟩
  · rintro (⟨row, stored, holds⟩ | ⟨row, stored, holds⟩)
    · exact ⟨row, List.mem_of_mem_filter stored, holds⟩
    · exact ⟨row, List.mem_of_mem_filter stored, holds⟩

theorem scopeMissing_within {scope : TenantScope} {key : EffectKey}
    {classification : DataClassification}
    (inside : scope key.tenantId key.organizationId = true) :
    (store.within scope).scopeMissing key classification ↔
      store.scopeMissing key classification := by
  simp only [RuntimeEffectStore.scopeMissing, RuntimeEffectStore.within, List.mem_filter]
  refine ⟨fun missing effect stored same => ?_, fun missing effect stored => missing effect stored.1⟩
  refine missing effect ⟨stored, ?_⟩ same
  obtain ⟨rfl, _⟩ := same
  exact inside

/-- An effect row is missing in the scope its key belongs to. -/
theorem scopeMissing_split (identity : RuntimeEffectIdentity) (key : EffectKey)
    (classification : DataClassification) :
    store.scopeMissing key classification ↔
      (identity.tenant key.tenantId key.organizationId = true ∧
        (store.within identity.tenant).scopeMissing key classification) ∨
      (identity.otherTenants key.tenantId key.organizationId = true ∧
        (store.within identity.otherTenants).scopeMissing key classification) := by
  cases inside : identity.tenant key.tenantId key.organizationId with
  | true =>
      have outside : identity.otherTenants key.tenantId key.organizationId = false := by
        simp [RuntimeEffectIdentity.otherTenants, inside]
      simp [scopeMissing_within inside, outside]
  | false =>
      have outside : identity.otherTenants key.tenantId key.organizationId = true := by
        simp [RuntimeEffectIdentity.otherTenants, inside]
      simp [scopeMissing_within outside, outside]

theorem rejectsRevision_iff (identity : RuntimeEffectIdentity)
    (row : RuntimeEffectLifecycleRevision) :
    store.rejectsRevision row ↔ store.rejectsRevisionWithin identity.tenant row ∨
      store.rejectsRevisionWithin identity.otherTenants row := by
  unfold RuntimeEffectStore.rejectsRevision RuntimeEffectStore.rejectsRevisionWithin
  rw [scopeMissing_split identity,
    exists_mem_filter_or (fun stored : RuntimeEffectLifecycleRevision =>
      identity.tenant stored.tenantId stored.organizationId)]
  exact or_or_or_comm

theorem rejectsObservation_iff (identity : RuntimeEffectIdentity)
    (row : RuntimeEffectReconciliationObservationRecord) :
    store.rejectsObservation row ↔ store.rejectsObservationWithin identity.tenant row ∨
      store.rejectsObservationWithin identity.otherTenants row := by
  unfold RuntimeEffectStore.rejectsObservation RuntimeEffectStore.rejectsObservationWithin
  rw [scopeMissing_split identity,
    exists_mem_filter_or (fun stored : RuntimeEffectReconciliationObservationRecord =>
      identity.tenant stored.tenantId stored.organizationId)]
  exact or_or_or_comm

theorem rejected_iff :
    (store.rejectsRevision (revisionOf request request.requestedAt) ∨
      ∃ observation ∈ observationRow request, store.rejectsObservation observation) ↔
    store.rejectsWithin request.effectIdentity.tenant request ∨
      store.rejectsWithin request.effectIdentity.otherTenants request := by
  simp only [rejectsRevision_iff request.effectIdentity,
    rejectsObservation_iff request.effectIdentity, and_or_left, exists_or,
    RuntimeEffectStore.rejectsWithin]
  exact or_or_or_comm

theorem flush_rejected {head : RuntimeEffectLifecycleHead}
    (rejected : store.rejectsWithin request.effectIdentity.tenant request ∨
      store.rejectsWithin request.effectIdentity.otherTenants request) :
    flush store head request =
      .error ⟨.persistenceConflict, "effect lifecycle uniqueness conflicted"⟩ := by
  simp only [flush, rejectIf, if_pos (rejected_iff.mpr rejected)]
  rfl

theorem flush_accepted (head : RuntimeEffectLifecycleHead)
    (own : ¬ store.rejectsWithin request.effectIdentity.tenant request)
    (others : ¬ store.rejectsWithin request.effectIdentity.otherTenants request) :
    ∃ next, flush store head request = .ok next := by
  simp only [flush, rejectIf, if_neg fun rejected => (rejected_iff.mp rejected).elim own others]
  exact ⟨_, rfl⟩

/-- Advancing one head moves no row to another tenant. -/
theorem advanced_within {scope : TenantScope} {head : RuntimeEffectLifecycleHead}
    (heads : List RuntimeEffectLifecycleHead) :
    (heads.map fun stored =>
      if stored.key = head.key then advanceHead head request else stored).filter
        (fun row => scope row.tenantId row.organizationId) =
    (heads.filter fun row => scope row.tenantId row.organizationId).map fun stored =>
      if stored.key = head.key then advanceHead head request else stored := by
  rw [List.filter_map]
  refine congrArg _ (List.filter_congr fun stored _ => ?_)
  by_cases same : stored.key = head.key
  · have key := same
    simp only [RuntimeEffectLifecycleHead.key, EffectKey.mk.injEq] at key
    simp only [Function.comp_apply, if_pos same, key.1, key.2.1]
    rfl
  · simp only [Function.comp_apply, if_neg same]

/-- The rows a write leaves a tenant depend on the tenant's own rows. -/
theorem flush_within {scope : TenantScope} {head : RuntimeEffectLifecycleHead}
    {left' right' : RuntimeEffectStore} (agree : left.within scope = right.within scope)
    (leftFlushed : flush left head request = .ok left')
    (rightFlushed : flush right head request = .ok right') :
    left'.within scope = right'.within scope := by
  simp only [flush, bind_eq_ok_iff, rejectIf_eq_ok_iff, exists_unit_iff, pure_eq_ok_iff]
    at leftFlushed rightFlushed
  obtain ⟨_, rfl⟩ := leftFlushed
  obtain ⟨_, rfl⟩ := rightFlushed
  simp only [RuntimeEffectStore.within, RuntimeEffectStore.mk.injEq] at agree ⊢
  obtain ⟨effects, heads, revisions, observations⟩ := agree
  simp only [List.filter_append, advanced_within, effects, heads, revisions, observations,
    and_self]

end Writes

/-! ## Interference -/

/-- How a request is refused when the row that answers it is not its own. -/
def replayDiffers : RuntimeEffectLifecycleRequest → RuntimePortError
  | .append _ =>
      ⟨.effectConflict, "lifecycle revision digest or immutable append facts differ"⟩
  | .claim _ => ⟨.effectConflict, "claim replay immutable facts differ"⟩

/-- How an interfered call is answered. -/
def Interference.error (request : RuntimeEffectLifecycleRequest) :
    Interference → Option RuntimePortError
  | .absent => none
  | .answered => some (replayDiffers request)
  | .ambiguous =>
      some ⟨.multipleResults, "Multiple rows were found when one or none was required"⟩
  | .collides => some ⟨.persistenceConflict, "effect lifecycle uniqueness conflicted"⟩

theorem Interference.error_inj {request : RuntimeEffectLifecycleRequest}
    {left right : Interference} (same : left.error request = right.error request) :
    left = right := by
  cases left <;> cases right <;> first | rfl | (cases request <;> cases same)

theorem Interference.error_eq_none_iff {request : RuntimeEffectLifecycleRequest}
    {interference : Interference} :
    interference.error request = none ↔ interference = .absent := by
  cases interference <;> simp [Interference.error]

section Interference

variable {store left right : RuntimeEffectStore} {request : RuntimeEffectLifecycleRequest}

/-- The four outcomes of the classification. -/
inductive Interferes (store : RuntimeEffectStore) (request : RuntimeEffectLifecycleRequest) :
    Interference → Prop where
  | absent
      (alone : (store.within request.effectIdentity.otherTenants).answering request = [])
      (free : store.admitsOwn request →
        ¬ store.rejectsWithin request.effectIdentity.otherTenants request) :
      Interferes store request .absent
  | collides
      (alone : (store.within request.effectIdentity.otherTenants).answering request = [])
      (admits : store.admitsOwn request)
      (rejects : store.rejectsWithin request.effectIdentity.otherTenants request) :
      Interferes store request .collides
  | answered {row}
      (other : (store.within request.effectIdentity.otherTenants).answering request = [row])
      (own : (store.within request.effectIdentity.tenant).answering request = []) :
      Interferes store request .answered
  | ambiguous
      (several : 2 ≤
        ((store.within request.effectIdentity.tenant).answering request).length +
          ((store.within request.effectIdentity.otherTenants).answering request).length) :
      Interferes store request .ambiguous

/-- The classification says what it is named after. -/
theorem interferes (store : RuntimeEffectStore) (request : RuntimeEffectLifecycleRequest) :
    Interferes store request (store.interference request) := by
  unfold RuntimeEffectStore.interference
  split
  · rename_i alone
    split
    · rename_i both
      exact .collides alone both.1 both.2
    · rename_i neither
      exact .absent alone fun admits rejects => neither ⟨admits, rejects⟩
  · rename_i other own
    exact .answered other own
  · rename_i others own notAlone notAnswered
    rcases isOthers : (store.within request.effectIdentity.otherTenants).answering request with
      _ | ⟨first, _ | ⟨second, rest⟩⟩
    · exact absurd isOthers notAlone
    · rcases isOwn : (store.within request.effectIdentity.tenant).answering request with
        _ | ⟨row, rows⟩
      · exact absurd isOwn (notAnswered first isOthers)
      · refine .ambiguous ?_
        rw [isOthers, isOwn]
        simp only [List.length_cons]
        omega
    · refine .ambiguous ?_
      rw [isOthers]
      simp only [List.length_cons]
      omega

theorem answering_length :
    (store.answering request).length =
      ((store.within request.effectIdentity.tenant).answering request).length +
        ((store.within request.effectIdentity.otherTenants).answering request).length := by
  rw [List.length_eq_length_filter_add (l := store.answering request)
    fun row => request.effectIdentity.tenant row.tenantId row.organizationId]
  simp only [RuntimeEffectStore.answering, RuntimeEffectStore.within, List.filter_filter,
    RuntimeEffectIdentity.otherTenants, Bool.and_comm]

theorem answers_conflict {earlier later : RuntimeEffectLifecycleRevision}
    (tenant : earlier.tenantId = later.tenantId)
    (organization : earlier.organizationId = later.organizationId)
    (isEarlier : earlier.answers request) (isLater : later.answers request) :
    later.conflictsWith earlier := by
  refine .inr (.inl ⟨tenant.symm, organization.symm, .inr ?_⟩)
  cases request with
  | append request => exact .inl ⟨by rw [isLater]; simp, isLater.trans isEarlier.symm⟩
  | claim request => exact .inr ⟨by rw [isLater]; simp, isLater.trans isEarlier.symm⟩

theorem answering_own_le (rows : RowsKept (fun _ => True) store) :
    ((store.within request.effectIdentity.tenant).answering request).length ≤ 1 := by
  simp only [RuntimeEffectStore.answering, RuntimeEffectStore.within, List.filter_filter]
  refine rows.free.length_filter_le fun earlier _ later _ isEarlier isLater => ?_
  simp only [RuntimeEffectIdentity.tenant, Bool.and_eq_true, decide_eq_true_eq]
    at isEarlier isLater
  exact answers_conflict (isEarlier.2.1.trans isLater.2.1.symm)
    (isEarlier.2.2.trans isLater.2.2.symm) isEarlier.1 isLater.1

/-- A row of another tenant is refused as an answer. -/
theorem exactReplay_other (rows : RowsKept (fun _ => True) store)
    {row : RuntimeEffectLifecycleRevision} (stored : row ∈ store.revisions)
    (answers : row.answers request)
    (other : request.effectIdentity.otherTenants row.tenantId row.organizationId = true) :
    exactReplay row request = .error (replayDiffers request) := by
  obtain ⟨written, _, rfl, answers⟩ := (rows.written row stored).of_answers answers
  have differs : written ≠ request := by
    rintro rfl
    simp [RuntimeEffectIdentity.otherTenants, RuntimeEffectIdentity.tenant, revisionOf] at other
  cases request with
  | append actual =>
      cases written with
      | claim written => cases answers
      | append written =>
          have facts : written ≠ actual := fun same => differs (congrArg _ same)
          simp [exactReplay, revisionOf, validateRuntimeEffectLifecycleReplay, rejectIf, facts,
            replayDiffers]
  | claim actual =>
      cases written with
      | append written => cases answers
      | claim written =>
          have facts : written ≠ actual := fun same => differs (congrArg _ same)
          simp [exactReplay, revisionOf, rejectIf, facts, replayDiffers]

theorem existing_eq : existing store request = scalarOneOrNone (store.answering request) := rfl

theorem scalarOneOrNone_several {Row : Type} {rows : List Row} (several : 2 ≤ rows.length) :
    scalarOneOrNone rows =
      .error ⟨.multipleResults, "Multiple rows were found when one or none was required"⟩ := by
  rcases rows with _ | ⟨first, _ | ⟨second, rest⟩⟩
  · simp at several
  · simp at several
  · rfl

/-- Only a call that no row answers proceeds to a head. -/
theorem unanswered_of_proceed {head : RuntimeEffectLifecycleHead}
    (proceeds : lockedRead store request = .ok (.proceed head)) :
    existing store request = .ok none := by
  simp only [lockedRead, bind_eq_ok_iff, storageFailed_eq_ok_iff] at proceeds
  obtain ⟨_, _, earlier, isEarlier, proceeds⟩ := proceeds
  cases earlier with
  | none => exact isEarlier
  | some row =>
      simp only [bind_eq_ok_iff, pure_eq_ok_iff] at proceeds
      obtain ⟨_, _, contradiction⟩ := proceeds
      cases contradiction

theorem commitCall_unanswered (valid : validateRuntimeEffectLifecycleRequest request = .ok ())
    (unanswered : existing store request = .ok none) :
    commitCall store request = lockedCall store request := by
  have found : firstLookup store request = .ok none := by
    simp only [firstLookup, unanswered]
    rfl
  simp only [commitCall, valid, found]

theorem commitCall_lookupError {error : RuntimePortError}
    (valid : validateRuntimeEffectLifecycleRequest request = .ok ())
    (failed : firstLookup store request = .error error) :
    commitCall store request = (.error error, store) := by
  simp only [commitCall, valid, failed]

/-- An interfered call is answered with the error of its interference and changes no
row. -/
theorem Interferes.outcome {interference : Interference} {error : RuntimePortError}
    (rows : RowsKept (fun _ => True) store)
    (valid : validateRuntimeEffectLifecycleRequest request = .ok ())
    (interferes : Interferes store request interference)
    (answered : interference.error request = some error) :
    commitCall store request = (.error error, store) := by
  cases interferes with
  | absent => cases answered
  | collides alone admits rejects =>
      obtain ⟨⟨head, _, proceeds⟩, _⟩ := admits
      rw [← (lookups_own alone).2] at proceeds
      rw [commitCall_unanswered valid (unanswered_of_proceed proceeds)]
      cases answered
      simp only [lockedCall, proceeds, flush_rejected (.inr rejects)]
  | @answered row other own =>
      have single : (store.answering request).length = 1 := by
        rw [answering_length, other, own]
        rfl
      obtain ⟨only, isOnly⟩ := List.length_eq_one_iff.mp single
      have isOther : row ∈ (store.within request.effectIdentity.otherTenants).answering request := by
        rw [other]
        exact List.mem_singleton_self row
      simp only [RuntimeEffectStore.answering, RuntimeEffectStore.within, List.mem_filter,
        decide_eq_true_eq] at isOther
      have listed : row ∈ store.answering request :=
        List.mem_filter.mpr ⟨isOther.1.1, decide_eq_true isOther.2⟩
      rw [isOnly, List.mem_singleton] at listed
      subst listed
      have refused := exactReplay_other rows isOther.1.1 isOther.2 isOther.1.2
      cases answered
      refine commitCall_lookupError valid ?_
      simp only [firstLookup, existing_eq, isOnly, scalarOneOrNone, refused, Bind.bind,
        Except.bind]
  | ambiguous several =>
      cases answered
      rw [← answering_length] at several
      refine commitCall_lookupError valid ?_
      simp only [firstLookup, existing_eq, scalarOneOrNone_several several, Bind.bind,
        Except.bind]

/-- Not an error a lookup of an earlier answer raises. -/
def NotFromLookup (request : RuntimeEffectLifecycleRequest) (error : RuntimePortError) : Prop :=
  error ≠ replayDiffers request ∧ error.kind ≠ .multipleResults

theorem notFromLookup_of_message {error : RuntimePortError}
    (kind : error.kind ≠ .multipleResults)
    (append : error.message ≠ "lifecycle revision digest or immutable append facts differ")
    (claim : error.message ≠ "claim replay immutable facts differ") :
    NotFromLookup request error := by
  refine ⟨?_, kind⟩
  rintro rfl
  cases request with
  | append => exact append rfl
  | claim => exact claim rfl

/-- The head checks raise errors of their own. -/
theorem checkHead_error {head : RuntimeEffectLifecycleHead} {error : RuntimePortError}
    (raised : checkHead head request = .error error) : NotFromLookup request error := by
  have claimed : ∀ {error}, checkClaimHead head request = .error error →
      NotFromLookup request error := by
    intro error raised
    cases request with
    | append => cases raised
    | claim request =>
        simp only [checkClaimHead, bind_eq_error_iff, rejectIf_eq_error_iff, rejectIf_eq_ok_iff,
          exists_unit_iff] at raised
        rcases raised with ⟨_, rfl⟩ | ⟨_, ⟨_, rfl⟩ | ⟨_, _, rfl⟩⟩ <;>
          exact notFromLookup_of_message (by decide) (by decide) (by decide)
  simp only [checkHead, bind_eq_error_iff, rejectIf_eq_error_iff, rejectIf_eq_ok_iff,
    exists_unit_iff] at raised
  rcases raised with ⟨_, rfl⟩ | ⟨_, ⟨_, rfl⟩ | ⟨_, raised⟩⟩
  · exact notFromLookup_of_message (by decide) (by decide) (by decide)
  · exact notFromLookup_of_message (by decide) (by decide) (by decide)
  · exact claimed raised

/-- A second transaction that finds no earlier answer raises errors of its own. -/
theorem lockedCall_error {error : RuntimePortError}
    (unanswered : existing store request = .ok none)
    (raised : (lockedCall store request).1 = .error error) : NotFromLookup request error := by
  cases read : lockedRead store request with
  | error refused =>
      simp only [lockedCall, read, Except.error.injEq] at raised
      subst raised
      simp only [lockedRead, unanswered, storageFailed, bind_eq_error_iff, Except.ok.injEq,
        exists_eq_left', reduceCtorEq, false_or] at read
      rcases read with failed | ⟨head, _, read⟩
      · split at failed
        · cases failed
        · cases failed
          exact notFromLookup_of_message (by decide) (by decide) (by decide)
      · cases head with
        | none =>
            cases read
            exact notFromLookup_of_message (by decide) (by decide) (by decide)
        | some head =>
            simp only [bind_eq_error_iff] at read
            rcases read with read | ⟨_, _, contradiction⟩
            · exact checkHead_error read
            · cases contradiction
  | ok found =>
      cases found with
      | replay result => simp only [lockedCall, read, reduceCtorEq] at raised
      | proceed head =>
          simp only [lockedCall, read] at raised
          cases written : flush store head request with
          | error refused =>
              simp only [written, Except.error.injEq] at raised
              subst raised
              simp only [flush, bind_eq_error_iff, rejectIf_eq_error_iff] at written
              rcases written with ⟨_, rfl⟩ | ⟨_, _, contradiction⟩
              · exact notFromLookup_of_message (by decide) (by decide) (by decide)
              · cases contradiction
          | ok next =>
              simp only [written, appended, validateRuntimeEffectLifecycleCommitResult_own,
                reduceCtorEq] at raised

theorem rejectsWithin_congr {scope : TenantScope} (agree : left.within scope = right.within scope) :
    left.rejectsWithin scope request ↔ right.rejectsWithin scope request := by
  simp only [RuntimeEffectStore.rejectsWithin, RuntimeEffectStore.rejectsRevisionWithin,
    RuntimeEffectStore.rejectsObservationWithin, agree]

theorem admitsOwn_congr
    (agree : left.within request.effectIdentity.tenant =
      right.within request.effectIdentity.tenant) :
    left.admitsOwn request ↔ right.admitsOwn request := by
  simp only [RuntimeEffectStore.admitsOwn, rejectsWithin_congr agree, agree]

/-- One answering row is never too many. -/
theorem exactReplay_error {row : RuntimeEffectLifecycleRevision} {error : RuntimePortError}
    (raised : exactReplay row request = .error error) : error.kind ≠ .multipleResults := by
  unfold exactReplay at raised
  split at raised <;> rw [bind_eq_error_iff] at raised <;>
    rcases raised with raised | ⟨_, _, contradiction⟩
  · rw [rejectIf_eq_error_iff] at raised
    obtain ⟨_, rfl⟩ := raised
    decide
  · cases contradiction
  · rw [validateRuntimeEffectLifecycleReplay, rejectIf_eq_error_iff] at raised
    obtain ⟨_, rfl⟩ := raised
    decide
  · cases contradiction
  · cases raised
    decide
  · cases contradiction

/-- A call the other tenants leave alone is not answered as one they interfere with
on the same own rows. -/
theorem Interferes.absent_ne {interference : Interference} {error : RuntimePortError}
    (rows : RowsKept (fun _ => True) left)
    (agree : left.within request.effectIdentity.tenant =
      right.within request.effectIdentity.tenant)
    (valid : validateRuntimeEffectLifecycleRequest request = .ok ())
    (absent : Interferes left request .absent) (interferes : Interferes right request interference)
    (answered : interference.error request = some error) :
    (commitCall left request).1 ≠ .error error := by
  obtain ⟨alone, free⟩ := absent
  have answering := answering_own alone
  intro raised
  cases interferes with
  | absent => cases answered
  | collides _ admits _ =>
      have admitsLeft := (admitsOwn_congr agree).mpr admits
      obtain ⟨⟨head, _, proceeds⟩, ownFree⟩ := id admitsLeft
      rw [← (lookups_own alone).2] at proceeds
      obtain ⟨next, written⟩ := flush_accepted head ownFree (free admitsLeft)
      rw [commitCall_unanswered valid (unanswered_of_proceed proceeds)] at raised
      simp only [lockedCall, proceeds, written, appended,
        validateRuntimeEffectLifecycleCommitResult_own, reduceCtorEq] at raised
  | answered _ own =>
      cases answered
      have unanswered : existing left request = .ok none := by
        rw [existing_eq, answering, agree, own]
        rfl
      rw [commitCall_unanswered valid unanswered] at raised
      exact (lockedCall_error unanswered raised).1 rfl
  | ambiguous _ =>
      cases answered
      have few :
          ((left.within request.effectIdentity.tenant).answering request).length ≤ 1 :=
        answering_own_le rows
      rw [← answering] at few
      rcases found : left.answering request with _ | ⟨row, _ | ⟨second, rest⟩⟩
      · have unanswered : existing left request = .ok none := by
          rw [existing_eq, found]
          rfl
        rw [commitCall_unanswered valid unanswered] at raised
        exact (lockedCall_error unanswered raised).2 rfl
      · cases replayed : exactReplay row request with
        | error refused =>
            have failed : firstLookup left request = .error refused := by
              simp only [firstLookup, existing_eq, found, scalarOneOrNone, replayed, Bind.bind,
                Except.bind]
            rw [commitCall_lookupError valid failed] at raised
            cases raised
            exact exactReplay_error replayed rfl
        | ok result =>
            have answers : firstLookup left request = .ok (some result) := by
              simp only [firstLookup, existing_eq, found, scalarOneOrNone, replayed, Bind.bind,
                Except.bind]
              rfl
            simp only [commitCall, valid, answers, reduceCtorEq] at raised
      · rw [found] at few
        simp at few

/-- Second transactions the other tenants leave alone end alike for the tenant. -/
theorem lockedCall_absent
    (agree : left.within request.effectIdentity.tenant =
      right.within request.effectIdentity.tenant)
    (leftFree : left.admitsOwn request →
      ¬ left.rejectsWithin request.effectIdentity.otherTenants request)
    (rightFree : right.admitsOwn request →
      ¬ right.rejectsWithin request.effectIdentity.otherTenants request)
    (leftAlone : (left.within request.effectIdentity.otherTenants).answering request = [])
    (sameRead : lockedRead left request = lockedRead right request) :
    (lockedCall left request).1 = (lockedCall right request).1 ∧
      (lockedCall left request).2.within request.effectIdentity.tenant =
        (lockedCall right request).2.within request.effectIdentity.tenant := by
  unfold lockedCall
  rw [← sameRead]
  cases read : lockedRead left request with
  | error error => exact ⟨rfl, agree⟩
  | ok found =>
      cases found with
      | replay result => exact ⟨rfl, agree⟩
      | proceed head =>
          by_cases own : left.rejectsWithin request.effectIdentity.tenant request
          · simp only [flush_rejected (.inl own),
              flush_rejected (.inl ((rejectsWithin_congr agree).mp own))]
            exact ⟨trivial, agree⟩
          · have admits : left.admitsOwn request := by
              rw [(lookups_own leftAlone).2] at read
              exact ⟨⟨head, (lockedRead_proceed read).1, read⟩, own⟩
            have rightOwn := mt (rejectsWithin_congr agree).mpr own
            obtain ⟨left', leftWritten⟩ := flush_accepted head own (leftFree admits)
            obtain ⟨right', rightWritten⟩ :=
              flush_accepted head rightOwn (rightFree ((admitsOwn_congr agree).mp admits))
            simp only [leftWritten, rightWritten]
            exact ⟨trivial, flush_within agree leftWritten rightWritten⟩

/-- Calls the other tenants leave alone end alike for the tenant. -/
theorem SameForTenant.of_absent
    (agree : left.within request.effectIdentity.tenant =
      right.within request.effectIdentity.tenant)
    (leftAbsent : Interferes left request .absent)
    (rightAbsent : Interferes right request .absent) : SameForTenant left right request := by
  obtain ⟨leftAlone, leftFree⟩ := leftAbsent
  obtain ⟨rightAlone, rightFree⟩ := rightAbsent
  have sameLookup : firstLookup left request = firstLookup right request := by
    rw [(lookups_own leftAlone).1, (lookups_own rightAlone).1, agree]
  have sameRead : lockedRead left request = lockedRead right request := by
    rw [(lookups_own leftAlone).2, (lookups_own rightAlone).2, agree]
  cases valid : validateRuntimeEffectLifecycleRequest request with
  | error error =>
      constructor <;> simp only [commitCall, valid]
      exact agree
  | ok accepted =>
      cases found : firstLookup left request with
      | error error =>
          constructor <;> simp only [commitCall, valid, ← sameLookup, found]
          exact agree
      | ok earlier =>
          cases earlier with
          | some result =>
              constructor <;> simp only [commitCall, valid, ← sameLookup, found]
              exact agree
          | none =>
              have same := lockedCall_absent agree leftFree rightFree leftAlone sameRead
              constructor <;> simp only [commitCall, valid, ← sameLookup, found]
              · exact same.1
              · exact same.2

/-- A call ends alike for the tenant over two stores with the same rows of that tenant
exactly when the rows of other tenants interfere alike, unless it is refused before
the store is asked. -/
theorem sameForTenant_iff (leftRows : RowsKept (fun _ => True) left)
    (rightRows : RowsKept (fun _ => True) right)
    (agree : left.within request.effectIdentity.tenant =
      right.within request.effectIdentity.tenant) :
    SameForTenant left right request ↔
      (validateRuntimeEffectLifecycleRequest request = .ok () →
        left.interference request = right.interference request) := by
  have leftInterferes := interferes left request
  have rightInterferes := interferes right request
  constructor
  · intro same valid
    cases isLeft : (left.interference request).error request with
    | some error =>
        have leftOutcome := leftInterferes.outcome leftRows valid isLeft
        cases isRight : (right.interference request).error request with
        | some error' =>
            have rightOutcome := rightInterferes.outcome rightRows valid isRight
            have sameError := same.answer
            rw [leftOutcome, rightOutcome, Except.error.injEq] at sameError
            exact Interference.error_inj (isLeft.trans (sameError ▸ isRight.symm))
        | none =>
            rw [Interference.error_eq_none_iff.mp isRight] at rightInterferes
            refine absurd ?_ (rightInterferes.absent_ne rightRows agree.symm valid leftInterferes
              isLeft)
            rw [← same.answer, leftOutcome]
    | none =>
        rw [Interference.error_eq_none_iff.mp isLeft] at leftInterferes ⊢
        cases isRight : (right.interference request).error request with
        | some error =>
            have rightOutcome := rightInterferes.outcome rightRows valid isRight
            refine absurd ?_ (leftInterferes.absent_ne leftRows agree valid rightInterferes isRight)
            rw [same.answer, rightOutcome]
        | none => exact (Interference.error_eq_none_iff.mp isRight).symm
  · intro alike
    cases valid : validateRuntimeEffectLifecycleRequest request with
    | error error =>
        constructor <;> simp only [commitCall, valid]
        exact agree
    | ok accepted =>
        have sameKind := alike valid
        cases isLeft : (left.interference request).error request with
        | some error =>
            have isRight := sameKind ▸ isLeft
            have leftOutcome := leftInterferes.outcome leftRows valid isLeft
            have rightOutcome := rightInterferes.outcome rightRows valid isRight
            constructor <;> rw [leftOutcome, rightOutcome]
            exact agree
        | none =>
            have absent := Interference.error_eq_none_iff.mp isLeft
            rw [← sameKind, absent] at rightInterferes
            rw [absent] at leftInterferes
            exact .of_absent agree leftInterferes rightInterferes

theorem rowsKept_of_reachable {state : LifecycleState}
    (reachable : lifecycleSystem.Reachable state) : RowsKept (fun _ => True) state.store := by
  obtain ⟨_, events, rfl, steps⟩ := reachable
  have kept : StoreKept (fun _ => True) state.store :=
    (storeKept (fun _ _ => True) fun _ _ _ _ => trivial).of_reachable
      (store_reachable ⟨{}, events, rfl, unguarded steps⟩)
  exact kept.rows

end Interference

/-! ## Two tenants -/

namespace Sample

/-- The effect of another tenant. -/
def otherIdentity : RuntimeEffectIdentity :=
  { identity with tenantId := 101, organizationId := 102 }

/-- A receipt fact of the other tenant. -/
def otherReceiptFact (receiptId : UUID) (record : RuntimeEffectLifecycleRecord) :
    RuntimeEffectLifecycleReceiptFact :=
  { receiptFact receiptId record with tenantId := 101, organizationId := 102 }

/-- The enqueue of the other tenant's effect. -/
def otherInitial : RuntimeInitialEffectEnqueue :=
  { initial with
    outboxEnqueueRecord :=
      { outbox with scope := { outbox.scope with tenantId := 101, organizationId := 102 } }
    effectIdentity := otherIdentity
    deliveryEnvelope := { envelope with effectIdentity := otherIdentity }
    effectReceiptFact :=
      { initial.effectReceiptFact with
        runtimeEffectReceiptId := 141, tenantId := 101, organizationId := 102 }
    lifecycleReceiptFact := otherReceiptFact 151 enqueuedRecord }

/-- A claim call of the other tenant. -/
def otherClaimRequest (requestId : UUID) : RuntimeEffectLifecycleRequest :=
  .claim
    { runtimeEffectClaimRequestId := requestId
      contractVersion := contractVersion
      effectIdentity := otherIdentity
      previousLifecycleRecord := enqueuedRecord
      claim := { claim with tenantId := 101, organizationId := 102 }
      claimedLifecycleRecord := claimedRecord
      receiptFact := otherReceiptFact 152 claimedRecord
      clockReference := "clock"
      observedAt := 10
      requestedAt := 10
      requestTime := claimedAtOnce }

/-- Both tenants have an effect, and the other one has claimed its own. -/
def otherClaimed (requestId : UUID) : List LifecycleEvent :=
  [.enqueue initial 0 0, .enqueue otherInitial 0 0] ++ call 0 (otherClaimRequest requestId)

/-- The state a run ends in. -/
def stateAfter (events : List LifecycleEvent) : LifecycleState :=
  (LifecycleState.run (fun _ _ => True) {} events).getD {}

theorem stateAfter_reachable {events : List LifecycleEvent}
    (ran : (LifecycleState.run (fun _ _ => True) {} events).isSome) :
    lifecycleSystem.Reachable (stateAfter events) := by
  have reachable := (reachable_of_run ran).of_restrict
  rwa [stateAfter, Option.getD_eq_iff.mpr (.inl (Option.some_get ran).symm)]

end Sample

/-- A claim under an identifier that no other tenant has used. -/
theorem sameForTenant_apart :
    SameForTenant (Sample.stateAfter [.enqueue Sample.initial 0 0]).store
      (Sample.stateAfter (Sample.otherClaimed 161)).store Sample.claimRequest :=
  (sameForTenant_iff (rowsKept_of_reachable (Sample.stateAfter_reachable (by decide)))
    (rowsKept_of_reachable (Sample.stateAfter_reachable (by decide))) (by decide)).mpr
    (by decide)

/-- A claim under an identifier that another tenant has used is refused, though the
tenant's own rows are the same as where it is accepted. -/
theorem claim_crossed :
    lifecycleSystem.Reachable (Sample.stateAfter [.enqueue Sample.initial 0 0]) ∧
    lifecycleSystem.Reachable (Sample.stateAfter (Sample.otherClaimed 61)) ∧
    (Sample.stateAfter [.enqueue Sample.initial 0 0]).store.within
        Sample.claimRequest.effectIdentity.tenant =
      (Sample.stateAfter (Sample.otherClaimed 61)).store.within
        Sample.claimRequest.effectIdentity.tenant ∧
    ¬ SameForTenant (Sample.stateAfter [.enqueue Sample.initial 0 0]).store
      (Sample.stateAfter (Sample.otherClaimed 61)).store Sample.claimRequest := by
  refine ⟨Sample.stateAfter_reachable (by decide), Sample.stateAfter_reachable (by decide),
    by decide, ?_⟩
  intro same
  exact absurd same.answer (by decide)

end PolicyOS.Runtime
