import PolicyOS.Runtime.Registry.Snapshots

/-!
# Resolution of actions

An action resolves in a snapshot where it has one entry and that entry is active. An invalidated
entry never takes the place of the entry it invalidates: both are in the snapshot, so that an
action which was invalidated once has two entries at least.
-/

namespace PolicyOS.Runtime.Registry

open Foundation

section Resolution

variable {snapshot : RuntimeActionRegistrySnapshot} {request : RuntimeActionResolutionRequest}
  {entry original : RuntimeRegistrySnapshotEntry} {identity : RuntimeActionIdentity}

/-- The entries of an action. -/
def RuntimeActionRegistrySnapshot.entriesOf (snapshot : RuntimeActionRegistrySnapshot)
    (identity : RuntimeActionIdentity) : List RuntimeRegistrySnapshotEntry :=
  snapshot.entries.filter (·.actionDefinition.identity = identity)

/-- An action has one entry, and it is active. -/
structure OneActive (snapshot : RuntimeActionRegistrySnapshot) (identity : RuntimeActionIdentity)
    (entry : RuntimeRegistrySnapshotEntry) : Prop where
  only : snapshot.entriesOf identity = [entry]
  active : entry.status = .active

/-- A request is for the snapshot, and asks for an action as it is defined. -/
structure RequestFits (request : RuntimeActionResolutionRequest)
    (snapshot : RuntimeActionRegistrySnapshot) (definition : RuntimeActionDefinition) : Prop where
  reference : validateRuntimeRegistrySnapshotReference request.snapshotReference snapshot = .ok ()
  scope : request.tenantId = snapshot.tenantId ∧ request.organizationId = snapshot.organizationId ∧
    request.rootLineageId = snapshot.rootLineageId
  lineageDigest : request.rootLineageDigestReference = snapshot.rootLineageDigestReference
  covers : notLower request.classification snapshot.classification
  asks : request.asks definition
  later : snapshot.createdAt ≤ request.requestedAt

/-- A request resolves to the one active entry of its action, if it fits. -/
theorem resolve_eq_ok_iff (accepted : validateRuntimeRegistrySnapshot snapshot = .ok ()) :
    resolveRuntimeAction request snapshot = .ok entry ↔
      OneActive snapshot request.actionIdentity entry ∧
        RequestFits request snapshot entry.actionDefinition := by
  simp only [resolveRuntimeAction, bind_eq_ok_iff, exists_unit_iff, accepted, true_and,
    rejectIf_eq_ok_iff, not_or, not_not, ne_eq]
  constructor
  · rintro ⟨reference, scope, lineageDigest, covers, resolved⟩
    split at resolved
    case h_1 one isOne =>
      simp only [bind_eq_ok_iff, exists_unit_iff, rejectIf_eq_ok_iff, not_not, not_lt,
        pure_eq_ok_iff] at resolved
      obtain ⟨active, asks, later, rfl⟩ := resolved
      exact ⟨⟨isOne, active⟩, reference, scope, lineageDigest, covers, asks, later⟩
    case h_2 => cases resolved
  · rintro ⟨⟨only, active⟩, reference, scope, lineageDigest, covers, asks, later⟩
    refine ⟨reference, scope, lineageDigest, covers, ?_⟩
    rw [RuntimeActionRegistrySnapshot.entriesOf] at only
    rw [only]
    simp only [bind_eq_ok_iff, exists_unit_iff, rejectIf_eq_ok_iff, not_not, not_lt,
      pure_eq_ok_iff]
    exact ⟨active, asks, later, trivial⟩

/-- The request that asks for an entry as it is defined, when the snapshot is made. -/
def exactRequest (snapshot : RuntimeActionRegistrySnapshot) (entry : RuntimeRegistrySnapshotEntry) :
    RuntimeActionResolutionRequest where
  runtimeActionResolutionRequestId := 0
  snapshotReference := { snapshot with }
  actionIdentity := entry.actionDefinition.identity
  selectors := entry.actionDefinition.selectors
  riskLevel := entry.actionDefinition.riskProfile.riskLevel
  sideEffectLevelReference := entry.actionDefinition.riskProfile.sideEffectLevelReference
  inputSchemaReference := entry.actionDefinition.inputSchema.schemaReference
  outputSchemaReference := entry.actionDefinition.outputSchema.schemaReference
  adapterReference := entry.actionDefinition.adapter.adapterReference
  tenantId := snapshot.tenantId
  organizationId := snapshot.organizationId
  classification := snapshot.classification
  rootLineageId := snapshot.rootLineageId
  rootLineageDigestReference := snapshot.rootLineageDigestReference
  requestedAt := snapshot.createdAt

theorem exactRequest_fits (snapshot : RuntimeActionRegistrySnapshot)
    (entry : RuntimeRegistrySnapshotEntry) :
    RequestFits (exactRequest snapshot entry) snapshot entry.actionDefinition where
  reference := by
    simp [exactRequest, validateRuntimeRegistrySnapshotReference, notLower_refl]
  scope := ⟨rfl, rfl, rfl⟩
  lineageDigest := rfl
  covers := notLower_refl _
  asks := ⟨rfl, rfl, rfl, rfl, rfl, rfl⟩
  later := le_refl _

theorem mem_entriesOf_iff :
    entry ∈ snapshot.entriesOf identity ↔
      entry ∈ snapshot.entries ∧ entry.actionDefinition.identity = identity := by
  simp [RuntimeActionRegistrySnapshot.entriesOf]

theorem OneActive.identity_eq (one : OneActive snapshot identity entry) :
    entry.actionDefinition.identity = identity :=
  (mem_entriesOf_iff.mp (one.only ▸ List.mem_singleton_self entry)).2

/-- An invalidated entry of an accepted snapshot has another entry of its action beside it. -/
theorem exists_original (accepted : validateRuntimeRegistrySnapshot snapshot = .ok ())
    (isEntry : entry ∈ snapshot.entries) (invalidated : entry.status = .invalidated) :
    ∃ original ∈ snapshot.entriesOf entry.actionDefinition.identity, original ≠ entry := by
  simp only [validateRuntimeRegistrySnapshot, bind_eq_ok_iff, exists_unit_iff,
    checkEach_eq_ok_iff] at accepted
  obtain ⟨-, -, each, -⟩ := accepted
  have valid := each entry isEntry
  simp only [validateSnapshotEntry, bind_eq_ok_iff, exists_unit_iff, invalidated,
    validateInvalidation] at valid
  obtain ⟨-, -, -, -, -, -, valid⟩ := valid
  split at valid
  case h_1 => cases valid
  case h_2 original found =>
    simp only [bind_eq_ok_iff, exists_unit_iff, rejectIf_eq_ok_iff, not_not, ne_eq,
      not_le] at valid
    obtain ⟨sameIdentity, -, earlier⟩ := valid
    refine ⟨original, mem_entriesOf_iff.mpr ⟨?_, sameIdentity⟩, ?_⟩
    · exact List.mem_reverse.mp (List.mem_of_find?_eq_some found)
    · rintro rfl
      exact lt_irrefl _ earlier

theorem not_oneActive_of_invalidated
    (accepted : validateRuntimeRegistrySnapshot snapshot = .ok ())
    (isEntry : entry ∈ snapshot.entries) (invalidated : entry.status = .invalidated)
    {other : RuntimeRegistrySnapshotEntry} :
    ¬ OneActive snapshot entry.actionDefinition.identity other := by
  intro one
  obtain ⟨original, isOriginal, different⟩ := exists_original accepted isEntry invalidated
  have isOwn := mem_entriesOf_iff.mpr ⟨isEntry, rfl⟩
  rw [one.only, List.mem_singleton] at isOriginal isOwn
  exact different (isOriginal.trans isOwn.symm)

/-- An action resolves, to its only entry, exactly where it has one and that is active. -/
structure ResolvesUnambiguously (snapshot : RuntimeActionRegistrySnapshot)
    (identity : RuntimeActionIdentity) : Prop where
  /-- Some request for the action resolves to an entry. -/
  resolvable : ∀ entry, (∃ request, request.actionIdentity = identity ∧
    resolveRuntimeAction request snapshot = .ok entry) ↔ OneActive snapshot identity entry
  /-- Every request that fits does. -/
  resolves : ∀ request entry, request.actionIdentity = identity →
    (resolveRuntimeAction request snapshot = .ok entry ↔
      OneActive snapshot identity entry ∧ RequestFits request snapshot entry.actionDefinition)
  never : (∃ entry ∈ snapshot.entriesOf identity, entry.status = .invalidated) →
    ∀ request, request.actionIdentity = identity →
      ¬ Accepted (resolveRuntimeAction request snapshot)

/-- Every action of an accepted snapshot resolves unambiguously. -/
theorem resolvesUnambiguously (accepted : validateRuntimeRegistrySnapshot snapshot = .ok ())
    (identity : RuntimeActionIdentity) : ResolvesUnambiguously snapshot identity where
  resolvable entry := by
    constructor
    · rintro ⟨request, rfl, resolved⟩
      exact ((resolve_eq_ok_iff accepted).mp resolved).1
    · intro one
      refine ⟨exactRequest snapshot entry, one.identity_eq, ?_⟩
      refine (resolve_eq_ok_iff accepted).mpr ⟨?_, exactRequest_fits snapshot entry⟩
      have sameIdentity : (exactRequest snapshot entry).actionIdentity = identity := one.identity_eq
      rwa [sameIdentity]
  resolves := by
    rintro request entry rfl
    exact resolve_eq_ok_iff accepted
  never := by
    rintro ⟨entry, isOwn, invalidated⟩ request rfl ⟨other, resolved⟩
    obtain ⟨isEntry, sameIdentity⟩ := mem_entriesOf_iff.mp isOwn
    have one := ((resolve_eq_ok_iff accepted).mp resolved).1
    rw [← sameIdentity] at one
    exact not_oneActive_of_invalidated accepted isEntry invalidated one

end Resolution

namespace ResolutionSample

/-- An action of one version. -/
def definition (action : BoundedId) : RuntimeActionDefinition where
  identity := ⟨action, action, "1"⟩
  version := ⟨"1", "1", "1"⟩
  capabilities := [.read]
  selectors := { resourceReference := "r", purpose := "p", executionEnvironment := .sandbox }
  riskProfile := ⟨.low, .none, "s", .nearest 1⟩
  inputSchema := ⟨"i", "1", "d"⟩
  outputSchema := ⟨"o", "1", "d"⟩
  permitRequirement := .none
  destinationRequirement := .none
  idempotencyRequirement := .none
  retryEligibility :=
    { retryEligible := false
      maximumAttemptCount := .nearest 1
      policy := RuntimeActionPolicyRequirement.none.policy }
  compensationEligibility := .none
  adapter := { adapterReference := "a", adapterContractVersion := "1" }
  tenantId := 1
  organizationId := 2
  classification := .public
  rootLineageId := 3
  rootLineageDigestReference := "l"
  definitionDigestReference := "d"
  createdAt := 10
  sameVersion := rfl
  otherCompensation := by rintro ⟨⟩

/-- The entry of an active action. -/
def active : RuntimeRegistrySnapshotEntry where
  runtimeRegistrySnapshotEntryId := 5
  actionDefinition := definition "a"
  status := .active
  registryRevision := .nearest 1
  recordedAt := 20

/-- An active action, and one that was retired and then invalidated. -/
def snapshot : RuntimeActionRegistrySnapshot where
  runtimeRegistrySnapshotId := 4
  contractVersion := ⟨"1", "1", "1"⟩
  registryRevision := .nearest 2
  entries := [
    active,
    { runtimeRegistrySnapshotEntryId := 6
      actionDefinition := definition "b"
      status := .retired
      registryRevision := .nearest 1
      statusReasonReference := some "r"
      recordedAt := 20 },
    { runtimeRegistrySnapshotEntryId := 7
      actionDefinition := definition "b"
      status := .invalidated
      registryRevision := .nearest 2
      statusReasonReference := some "r"
      originalSnapshotEntryId := some 6
      invalidationReference := some "v"
      recordedAt := 20 }]
  tenantId := 1
  organizationId := 2
  classification := .public
  rootLineageId := 3
  rootLineageDigestReference := "l"
  snapshotDigestReference := "d"
  auditMetadata := ⟨.nearest 3, .nearest 1, .nearest 0, .nearest 1,
    .nearest 1, "d"⟩
  createdAt := 30

theorem accepted : validateRuntimeRegistrySnapshot snapshot = .ok () := by decide

end ResolutionSample

/-- The invalidated action of a snapshot never resolves, and its other action does. -/
theorem resolvesUnambiguously_invalidated :
    (∃ request, request.actionIdentity = ⟨"a", "a", "1"⟩ ∧
      Accepted (resolveRuntimeAction request ResolutionSample.snapshot)) ∧
      ∀ request, request.actionIdentity = ⟨"b", "b", "1"⟩ →
        ¬ Accepted (resolveRuntimeAction request ResolutionSample.snapshot) := by
  refine ⟨?_, (resolvesUnambiguously ResolutionSample.accepted _).never (by decide)⟩
  obtain ⟨request, isRequest, resolved⟩ :=
    ((resolvesUnambiguously ResolutionSample.accepted ⟨"a", "a", "1"⟩).resolvable
      ResolutionSample.active).mpr ⟨by decide, rfl⟩
  exact ⟨request, isRequest, _, resolved⟩

end PolicyOS.Runtime.Registry
