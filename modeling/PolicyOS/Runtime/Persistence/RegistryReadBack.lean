import PolicyOS.Runtime.Persistence.RegistryRepositories

/-!
# Registry bindings are read back

A valid binding is stored exactly if its snapshot revision is new and none of its entries is
stored, under any snapshot. Bindings stored in turn are each read back, and nothing else is
read that differs in what the rows hold, but for the time of the binding, which no read
compares.
-/

namespace PolicyOS.Runtime

open Foundation

/-! ## Valid bindings -/

/-- A binding whose facts agree with each other. -/
structure ValidBinding (binding : RuntimeApiPersistenceBindingRead) : Prop where
  exactly : validateExactBinding binding = .ok ()
  graph : validateRegistryGraph binding.snapshot binding.request binding.decision = .ok ()

/-- What the checks of a binding establish of its identifiers and its scope. -/
structure ExactlyBound (binding : RuntimeApiPersistenceBindingRead) : Prop where
  snapshotScope : binding.scope.isOf binding.snapshot.tenantId binding.snapshot.organizationId
    binding.snapshot.classification binding.snapshot.rootLineageId
    binding.snapshot.rootLineageDigestReference
  snapshotId : binding.snapshot.runtimeRegistrySnapshotId =
    binding.registry.runtimeRegistrySnapshotId
  revision : binding.snapshot.registryRevision = binding.registry.registryRevision
  digest : binding.snapshot.snapshotDigestReference = binding.registry.snapshotDigestReference
  requestId : binding.request.runtimeActionResolutionRequestId =
    binding.registry.runtimeActionResolutionRequestId
  decisionId : binding.decision.runtimeActionResolutionDecisionId =
    binding.registry.runtimeActionResolutionDecisionId

theorem ExactlyBound.of_validate {binding : RuntimeApiPersistenceBindingRead}
    (accepted : validateExactBinding binding = .ok ()) : ExactlyBound binding := by
  simp only [validateExactBinding, bind_eq_ok_iff, exists_unit_iff, rejectIf_eq_ok_iff, not_or,
    not_not] at accepted
  obtain ⟨scope, ⟨snapshotId, revision, digest⟩, ⟨requestId, decisionId, -⟩, -, -⟩ := accepted
  exact ⟨scope, snapshotId, revision, digest, requestId, decisionId⟩

/-- A snapshot that passes its check has at most one active entry for an action. -/
theorem activeOnce_of_validate {snapshot : Registry.RuntimeActionRegistrySnapshot}
    (accepted : Registry.validateRuntimeRegistrySnapshot snapshot = .ok ()) :
    snapshot.entries.Pairwise fun earlier later => later.status = .active →
      earlier.status = .active →
      later.actionDefinition.identity ≠ earlier.actionDefinition.identity := by
  simp only [Registry.validateRuntimeRegistrySnapshot, bind_eq_ok_iff, exists_unit_iff,
    rejectIf_eq_ok_iff, not_not] at accepted
  obtain ⟨-, once, -, -⟩ := accepted
  rw [List.Nodup, List.pairwise_map, List.pairwise_filter] at once
  refine once.imp fun apart laterActive earlierActive same => ?_
  exact apart (by simpa using earlierActive) (by simpa using laterActive) same.symm

/-- The entry of a resolved decision is one of the snapshot. -/
theorem mem_of_validateResolvedEntry {decision : Registry.RuntimeActionResolutionDecision}
    {request : Registry.RuntimeActionResolutionRequest}
    {snapshot : Registry.RuntimeActionRegistrySnapshot}
    (accepted : Registry.validateResolvedEntry decision request snapshot = .ok ())
    {entryId : UUID} (resolved : decision.resolvedSnapshotEntryId = some entryId) :
    entryId ∈ snapshot.entries.map (·.runtimeRegistrySnapshotEntryId) := by
  have isResolved : decision.decisionStatus = .resolved :=
    decision.outcome.mpr (by simp [resolved])
  simp only [Registry.validateResolvedEntry, isResolved, bind_eq_ok_iff, rejectIf_eq_ok_iff,
    not_not, resolved, Option.some.injEq] at accepted
  obtain ⟨entry, found, rfl⟩ := accepted
  simp only [Registry.resolveRuntimeAction, bind_eq_ok_iff, exists_unit_iff] at found
  obtain ⟨-, -, -, -, -, chosen⟩ := found
  have isOne : snapshot.entries.filter (·.actionDefinition.identity = request.actionIdentity) =
      [entry] := by
    split at chosen
    · rename_i only isOnly
      simp only [bind_eq_ok_iff, exists_unit_iff, pure_eq_ok_iff] at chosen
      rw [isOnly, chosen.2.2.2]
    · cases chosen
  have present : entry ∈ snapshot.entries.filter
      (·.actionDefinition.identity = request.actionIdentity) := by simp [isOne]
  exact List.mem_map_of_mem (List.mem_filter.mp present).1

namespace ValidBinding

variable {binding : RuntimeApiPersistenceBindingRead} (valid : ValidBinding binding)
include valid

theorem bound : ExactlyBound binding := ExactlyBound.of_validate valid.exactly

theorem activeOnce : binding.snapshot.entries.Pairwise fun earlier later =>
    later.status = .active → earlier.status = .active →
      later.actionDefinition.identity ≠ earlier.actionDefinition.identity := by
  have graph := valid.graph
  simp only [validateRegistryGraph, bind_eq_ok_iff, exists_unit_iff] at graph
  exact activeOnce_of_validate graph.1

theorem resolved_mem {entryId : UUID}
    (resolved : binding.decision.resolvedSnapshotEntryId = some entryId) :
    entryId ∈ binding.entryIds := by
  have graph := valid.graph
  simp only [validateRegistryGraph, Registry.validateRuntimeActionResolutionDecision,
    bind_eq_ok_iff, exists_unit_iff] at graph
  obtain ⟨-, -, -, -, -, -, -, -, entry⟩ := graph
  exact mem_of_validateResolvedEntry entry resolved

theorem distinctScope : binding.snapshot.tenantId ≠ binding.snapshot.organizationId := by
  obtain ⟨tenant, organization, -⟩ := valid.bound.snapshotScope
  rw [tenant, organization]
  exact binding.scope.distinctScope

end ValidBinding

/-! ## The store of a sequence of bindings -/

/-- The rows of bindings, stored one binding after the other. -/
def storeOf (bindings : List RuntimeApiPersistenceBindingRead) : RuntimeRegistryStore where
  snapshots := bindings.map (·.snapshotRow)
  entries := bindings.flatMap (·.entryRows)
  requests := bindings.map (·.requestRow)
  decisions := bindings.map (·.decisionRow)
  admissions := bindings.map (·.admissionRow)
  permits := bindings.flatMap (·.permitRows)

/-- No two bindings share a snapshot revision, and no entry identifier occurs twice. -/
structure SnapshotsApart (bindings : List RuntimeApiPersistenceBindingRead) : Prop where
  snapshots : (bindings.map (·.snapshotKey)).Nodup
  entries : (bindings.flatMap (·.entryIds)).Nodup

/-- No two bindings share an admission, a resolution request or a resolution decision. -/
structure IdentitiesApart (bindings : List RuntimeApiPersistenceBindingRead) : Prop where
  admissions : (bindings.map (·.admission.recordId)).Nodup
  requests : (bindings.map (·.request.runtimeActionResolutionRequestId)).Nodup
  decisions : (bindings.map (·.decision.runtimeActionResolutionDecisionId)).Nodup

/-! ## What one append does -/

theorem map_id_entryRows (binding : RuntimeApiPersistenceBindingRead) :
    binding.entryRows.map (·.runtimeRegistrySnapshotEntryId) = binding.entryIds := by
  rw [RuntimeApiPersistenceBindingRead.entryRows, List.map_map]
  change binding.snapshot.entries.zipIdx.map
    ((·.runtimeRegistrySnapshotEntryId) ∘ Prod.fst) = _
  rw [← List.map_map, List.zipIdx_map_fst]
  rfl

theorem snapshotKey_of_entryRows {binding : RuntimeApiPersistenceBindingRead}
    {row : RuntimeRegistrySnapshotEntryRecord} (isRow : row ∈ binding.entryRows) :
    row.snapshotKey = binding.snapshotKey := by
  obtain ⟨entry, -, rfl⟩ := List.mem_map.mp isRow
  rfl

theorem admission_of_permitRows {binding : RuntimeApiPersistenceBindingRead}
    {row : RuntimeRegistryPermitBindingRecord} (isRow : row ∈ binding.permitRows) :
    row.runtimeAdmissionDecisionId = binding.admission.recordId := by
  obtain ⟨permit, -, rfl⟩ := List.mem_map.mp isRow
  rfl

theorem map_id_entries (bindings : List RuntimeApiPersistenceBindingRead) :
    (storeOf bindings).entries.map (·.runtimeRegistrySnapshotEntryId) =
      bindings.flatMap (·.entryIds) := by
  simp only [storeOf, List.map_flatMap, map_id_entryRows]

theorem ValidBinding.entryRows_apart {binding : RuntimeApiPersistenceBindingRead}
    (valid : ValidBinding binding) (distinct : binding.entryIds.Nodup) :
    binding.entryRows.Pairwise fun earlier later => ¬ later.conflictsWith earlier := by
  refine List.pairwise_map.mpr ((pairwise_zipIdx
    ((List.pairwise_map.mp distinct).and valid.activeOnce)).imp ?_)
  rintro earlier later ⟨before, differ, once⟩
    (sameId | ⟨-, samePosition⟩ | ⟨-, laterActive, earlierActive, sameAction⟩)
  · exact differ sameId.symm
  · exact absurd samePosition (Nat.ne_of_gt before)
  · exact once laterActive earlierActive sameAction

theorem permitRows_apart (binding : RuntimeApiPersistenceBindingRead) :
    binding.permitRows.Pairwise fun earlier later => ¬ later.conflictsWith earlier := by
  refine List.pairwise_map.mpr ((pairwise_zipIdx
    (List.pairwise_map.mp binding.canonicalPermits.2.1)).imp ?_)
  rintro earlier later ⟨before, differ⟩ ⟨-, samePermit | samePosition⟩
  · exact differ samePermit.symm
  · exact absurd samePosition (Nat.ne_of_gt before)

/-- What is appended to a store of bindings is new to it, and makes the store of them all. -/
theorem appended_of_ok {stored : List RuntimeApiPersistenceBindingRead}
    {binding : RuntimeApiPersistenceBindingRead} {next : RuntimeRegistryStore}
    (appended : (storeOf stored).appendBinding binding = .ok next) :
    next = storeOf (stored ++ [binding]) ∧
      binding.snapshotKey ∉ stored.map (·.snapshotKey) ∧ binding.entryIds.Nodup ∧
      ∀ entryId ∈ binding.entryIds, entryId ∉ stored.flatMap (·.entryIds) := by
  simp only [RuntimeRegistryStore.appendBinding, RuntimeRegistryStore.insertSnapshot,
    RuntimeRegistryStore.insertEntries, RuntimeRegistryStore.insertRequest,
    RuntimeRegistryStore.insertDecision, RuntimeRegistryStore.insertAdmission,
    RuntimeRegistryStore.insertPermits, bind_eq_ok_iff, exists_unit_iff, rejectIf_eq_ok_iff,
    pure_eq_ok_iff, insertRows_eq_ok_iff] at appended
  obtain ⟨-, _, ⟨freshSnapshot, rfl⟩, _, ⟨_, ⟨-, freshEntries, distinct, rfl⟩, rfl⟩, _,
    ⟨-, rfl⟩, _, ⟨-, rfl⟩, _, ⟨-, rfl⟩, _, ⟨-, -, -, rfl⟩, rfl⟩ := appended
  refine ⟨by simp [storeOf], ?_, ?_, ?_⟩
  · intro known
    obtain ⟨other, isOther, same⟩ := List.mem_map.mp known
    exact freshSnapshot (.inl ⟨other.snapshotRow, List.mem_map_of_mem isOther, same.symm⟩)
  · rw [← map_id_entryRows]
    exact List.pairwise_map.mpr (distinct.imp fun apart same => apart (.inl same.symm))
  · intro entryId isEntry known
    rw [← map_id_entryRows] at isEntry
    rw [← map_id_entries] at known
    obtain ⟨row, isRow, rfl⟩ := List.mem_map.mp isEntry
    obtain ⟨other, isOther, same⟩ := List.mem_map.mp known
    exact freshEntries row isRow other isOther (.inl same.symm)

/-- A valid binding that is new to a store of bindings is appended to it. -/
theorem append_ok {stored : List RuntimeApiPersistenceBindingRead}
    {binding : RuntimeApiPersistenceBindingRead} (valid : ValidBinding binding)
    (identities : IdentitiesApart (stored ++ [binding]))
    (apart : SnapshotsApart (stored ++ [binding])) :
    (storeOf stored).appendBinding binding = .ok (storeOf (stored ++ [binding])) := by
  obtain ⟨snapshots, entries⟩ := apart
  simp only [List.map_append, List.map_cons, List.map_nil, List.flatMap_append,
    List.flatMap_cons, List.flatMap_nil, List.append_nil, List.nodup_append',
    List.disjoint_singleton] at snapshots entries
  obtain ⟨admissions, requests, decisions⟩ := identities
  simp only [List.map_append, List.map_cons, List.map_nil, List.nodup_append',
    List.disjoint_singleton] at admissions requests decisions
  -- foreign keys: every stored row is of a stored binding, whose snapshot and admission differ
  have otherSnapshot : ∀ row ∈ (storeOf stored).entries,
      row.snapshotKey ≠ binding.snapshotKey := by
    intro row isRow same
    obtain ⟨other, isOther, ofOther⟩ := List.mem_flatMap.mp isRow
    exact snapshots.2.2 (List.mem_map.mpr
      ⟨other, isOther, (snapshotKey_of_entryRows ofOther).symm.trans same⟩)
  have otherAdmission : ∀ row ∈ (storeOf stored).permits,
      row.runtimeAdmissionDecisionId ≠ binding.admission.recordId := by
    intro row isRow same
    obtain ⟨other, isOther, ofOther⟩ := List.mem_flatMap.mp isRow
    exact admissions.2.2 (List.mem_map.mpr
      ⟨other, isOther, (admission_of_permitRows ofOther).symm.trans same⟩)
  have freshEntries : ∀ row ∈ binding.entryRows, ∀ other ∈ (storeOf stored).entries,
      ¬ row.conflictsWith other := by
    rintro row isRow other isOther (sameId | ⟨sameKey, -⟩ | ⟨sameKey, -⟩)
    · refine entries.2.2 (?_ : other.runtimeRegistrySnapshotEntryId ∈ _) ?_
      · rw [← map_id_entries]
        exact List.mem_map_of_mem isOther
      · rw [← sameId, ← map_id_entryRows]
        exact List.mem_map_of_mem isRow
    all_goals
      exact otherSnapshot other isOther (sameKey.symm.trans (snapshotKey_of_entryRows isRow))
  simp only [RuntimeRegistryStore.appendBinding, RuntimeRegistryStore.insertSnapshot,
    RuntimeRegistryStore.insertEntries, RuntimeRegistryStore.insertRequest,
    RuntimeRegistryStore.insertDecision, RuntimeRegistryStore.insertAdmission,
    RuntimeRegistryStore.insertPermits, bind_eq_ok_iff, exists_unit_iff, rejectIf_eq_ok_iff,
    pure_eq_ok_iff, insertRows_eq_ok_iff, mapError_eq_ok_iff]
  refine ⟨valid.graph, _, ⟨?_, rfl⟩, _, ⟨_, ⟨?_, freshEntries,
    valid.entryRows_apart entries.2.1, rfl⟩, rfl⟩, _, ⟨?_, rfl⟩, _, ⟨?_, rfl⟩, _, ⟨?_, rfl⟩,
    _, ⟨?_, ?_, permitRows_apart binding, rfl⟩, by simp [storeOf]⟩
  · rintro (⟨other, isOther, same⟩ | same)
    · obtain ⟨earlier, isEarlier, rfl⟩ := List.mem_map.mp isOther
      exact snapshots.2.2 (List.mem_map.mpr ⟨earlier, isEarlier, same.symm⟩)
    · exact valid.distinctScope same
  · intro row isRow unknown
    rw [snapshotKey_of_entryRows isRow] at unknown
    exact unknown (by simp [RuntimeApiPersistenceBindingRead.snapshotRow,
      RuntimeRegistrySnapshotRecord.key, RuntimeApiPersistenceBindingRead.snapshotKey])
  · rintro (⟨other, isOther, same⟩ | unknown)
    · obtain ⟨earlier, isEarlier, rfl⟩ := List.mem_map.mp isOther
      exact requests.2.2 (List.mem_map.mpr ⟨earlier, isEarlier, same.symm⟩)
    · exact unknown (by simp [RuntimeApiPersistenceBindingRead.snapshotRow,
        RuntimeRegistrySnapshotRecord.key, RuntimeApiPersistenceBindingRead.requestRow])
  · rintro (⟨other, isOther, same⟩ | missing | outcome)
    · obtain ⟨earlier, isEarlier, rfl⟩ := List.mem_map.mp isOther
      exact decisions.2.2 (List.mem_map.mpr ⟨earlier, isEarlier, same.symm⟩)
    · refine missing ⟨⟨binding.requestRow, by simp, rfl, rfl, rfl⟩, fun entryId resolved => ?_⟩
      have isEntry := valid.resolved_mem (Option.mem_def.mp resolved)
      rw [← map_id_entryRows] at isEntry
      obtain ⟨row, isRow, sameId⟩ := List.mem_map.mp isEntry
      exact ⟨row, List.mem_append_right _ isRow, snapshotKey_of_entryRows isRow, sameId⟩
    · exact outcome binding.decision.outcome
  · rintro (⟨other, isOther, same⟩ | missing)
    · obtain ⟨earlier, isEarlier, rfl⟩ := List.mem_map.mp isOther
      exact admissions.2.2 (List.mem_map.mpr ⟨earlier, isEarlier, same.symm⟩)
    · exact missing ⟨binding.decisionRow, by simp, rfl, rfl, rfl, rfl⟩
  · intro row isRow unknown
    rw [admission_of_permitRows isRow] at unknown
    exact unknown (by simp [RuntimeApiPersistenceBindingRead.admissionRow])
  · rintro row isRow other isOther ⟨sameAdmission, -⟩
    exact otherAdmission other isOther
      (sameAdmission.symm.trans (admission_of_permitRows isRow))

theorem SnapshotsApart.of_append {bindings later : List RuntimeApiPersistenceBindingRead}
    (apart : SnapshotsApart (bindings ++ later)) : SnapshotsApart bindings := by
  obtain ⟨snapshots, entries⟩ := apart
  rw [List.map_append] at snapshots
  rw [List.flatMap_append] at entries
  exact ⟨snapshots.of_append_left, entries.of_append_left⟩

theorem IdentitiesApart.of_append {bindings later : List RuntimeApiPersistenceBindingRead}
    (apart : IdentitiesApart (bindings ++ later)) : IdentitiesApart bindings := by
  obtain ⟨admissions, requests, decisions⟩ := apart
  rw [List.map_append] at admissions requests decisions
  exact ⟨admissions.of_append_left, requests.of_append_left, decisions.of_append_left⟩

/-- A valid binding is appended to a store of bindings exactly if its snapshot revision and its
entries are new to it. -/
theorem appendBinding_eq_ok_iff {stored : List RuntimeApiPersistenceBindingRead}
    {binding : RuntimeApiPersistenceBindingRead} (valid : ValidBinding binding)
    (identities : IdentitiesApart (stored ++ [binding])) (apart : SnapshotsApart stored)
    {next : RuntimeRegistryStore} :
    (storeOf stored).appendBinding binding = .ok next ↔
      SnapshotsApart (stored ++ [binding]) ∧ next = storeOf (stored ++ [binding]) := by
  constructor
  · intro appended
    obtain ⟨result, freshSnapshot, distinct, freshEntries⟩ := appended_of_ok appended
    refine ⟨⟨?_, ?_⟩, result⟩
    · rw [List.map_append, List.nodup_append']
      exact ⟨apart.snapshots, by simp, by simpa using freshSnapshot⟩
    · rw [List.flatMap_append, List.nodup_append']
      refine ⟨apart.entries, by simpa using distinct, fun entryId known isEntry => ?_⟩
      exact freshEntries entryId (by simpa using isEntry) known
  · rintro ⟨together, rfl⟩
    exact append_ok valid identities together

/-- Valid bindings are appended in turn exactly if their snapshot revisions and their entries
are distinct, among them and from what is stored. -/
theorem appendBindings_eq_ok_iff {stored rest : List RuntimeApiPersistenceBindingRead}
    (valid : ∀ binding ∈ rest, ValidBinding binding)
    (identities : IdentitiesApart (stored ++ rest)) (apart : SnapshotsApart stored)
    {next : RuntimeRegistryStore} :
    (storeOf stored).appendBindings rest = .ok next ↔
      SnapshotsApart (stored ++ rest) ∧ next = storeOf (stored ++ rest) := by
  induction rest generalizing stored with
  | nil =>
      rw [RuntimeRegistryStore.appendBindings, pure_eq_ok_iff, List.append_nil]
      exact ⟨fun same => ⟨apart, same.symm⟩, fun ⟨_, same⟩ => same.symm⟩
  | cons binding later ih =>
      rw [List.append_cons] at identities ⊢
      have laterValid := fun other isOther => valid other (List.mem_cons_of_mem binding isOther)
      simp only [RuntimeRegistryStore.appendBindings, bind_eq_ok_iff,
        appendBinding_eq_ok_iff (valid binding List.mem_cons_self) identities.of_append apart]
      constructor
      · rintro ⟨_, ⟨together, rfl⟩, rest⟩
        exact (ih laterValid identities together).mp rest
      · rintro ⟨together, same⟩
        exact ⟨_, ⟨together.of_append, rfl⟩,
          (ih laterValid identities together.of_append).mpr ⟨together, same⟩⟩

/-! ## What is read back -/

/-- What the rows of a binding hold of it, but for its time. -/
structure StoredFields where
  executionRequest : RuntimeApiPersistedRecordFact
  admission : RuntimeApiPersistedRecordFact
  permits : List RuntimeApiPersistedPermitFact
  registry : RuntimeApiRegistryPersistenceFact
  snapshot : Registry.RuntimeActionRegistrySnapshot
  request : Registry.RuntimeActionResolutionRequest
  decision : Registry.RuntimeActionResolutionDecision
  scope : RuntimeApiPersistenceScope
  deriving DecidableEq

/-- The stored fields of a binding. -/
def RuntimeApiPersistenceBindingRead.storedFields (binding : RuntimeApiPersistenceBindingRead) :
    StoredFields where
  executionRequest := binding.executionRequest
  admission := binding.admission
  permits := binding.permits
  registry := binding.registry
  snapshot := binding.snapshot
  request := binding.request
  decision := binding.decision
  scope := binding.scope

/-- A read finds one row in each table, and each is as expected. -/
theorem readExact_eq_ok_iff {store : RuntimeRegistryStore}
    {expected result : RuntimeApiPersistenceBindingRead} :
    store.readExact expected = .ok result ↔
      ∃ snapshotRow requestRow decisionRow admissionRow,
        store.snapshots.find? (·.answers expected) = some snapshotRow ∧
        store.requests.find? (·.runtimeActionResolutionRequestId =
          expected.registry.runtimeActionResolutionRequestId) = some requestRow ∧
        store.decisions.find? (·.runtimeActionResolutionDecisionId =
          expected.registry.runtimeActionResolutionDecisionId) = some decisionRow ∧
        store.admissions.find? (·.runtimeAdmissionDecisionId = expected.admission.recordId) =
          some admissionRow ∧
        store.compareExact expected snapshotRow requestRow decisionRow admissionRow =
          .ok result := by
  rw [RuntimeRegistryStore.readExact]
  split
  · rename_i snapshotRow requestRow decisionRow admissionRow isSnapshot isRequest isDecision
      isAdmission
    constructor
    · exact fun compared => ⟨snapshotRow, requestRow, decisionRow, admissionRow, isSnapshot,
        isRequest, isDecision, isAdmission, compared⟩
    · rintro ⟨_, _, _, _, isSnapshot', isRequest', isDecision', isAdmission', compared⟩
      rw [isSnapshot] at isSnapshot'
      rw [isRequest] at isRequest'
      rw [isDecision] at isDecision'
      rw [isAdmission] at isAdmission'
      cases isSnapshot'
      cases isRequest'
      cases isDecision'
      cases isAdmission'
      exact compared
  · rename_i missing
    constructor
    · exact fun refused => absurd refused (by simp)
    · rintro ⟨_, _, _, _, isSnapshot, isRequest, isDecision, isAdmission, -⟩
      exact (missing _ _ _ _ isSnapshot isRequest isDecision isAdmission).elim

/-- What a comparison accepts is the expectation, and agrees with the rows. -/
theorem compareExact_eq_ok_iff {store : RuntimeRegistryStore}
    {expected result : RuntimeApiPersistenceBindingRead}
    {snapshotRow : RuntimeRegistrySnapshotRecord}
    {requestRow : RuntimeRegistryResolutionRequestRecord}
    {decisionRow : RuntimeRegistryResolutionDecisionRecord}
    {admissionRow : RuntimeRegistryAdmissionBindingRecord} :
    store.compareExact expected snapshotRow requestRow decisionRow admissionRow = .ok result ↔
      validateRegistryGraph snapshotRow.snapshotPayload requestRow.requestPayload
        decisionRow.decisionPayload = .ok () ∧
      (snapshotRow.snapshotPayload = expected.snapshot ∧
        store.entriesOf (expected.registry.runtimeRegistrySnapshotId,
          expected.registry.registryRevision) = snapshotRow.snapshotPayload.entries ∧
        requestRow.requestPayload = expected.request ∧
        decisionRow.decisionPayload = expected.decision ∧ admissionRow.answers expected ∧
        store.permitsOf expected.admission.recordId =
          expected.permits.map fun item => (item.permitId, item.expectedRevision)) ∧
      expected = result := by
  simp only [RuntimeRegistryStore.compareExact, bind_eq_ok_iff, exists_unit_iff,
    rejectIf_eq_ok_iff, mapError_eq_ok_iff, pure_eq_ok_iff, not_or, not_not]

theorem sortedBy_numbered {Item Row : Type} (row : Item × Nat → Row) (position : Row → Nat)
    (numbered : ∀ item, position (row item) = item.2) (items : List Item) :
    sortedBy position (items.zipIdx.map row) = items.zipIdx.map row := by
  refine sortedBy_eq_self (List.pairwise_map.mpr ?_)
  have always : items.Pairwise fun _ _ => True := List.pairwise_of_forall fun _ _ => trivial
  refine (pairwise_zipIdx always).imp fun {earlier later} before => ?_
  rw [numbered, numbered]
  exact Nat.le_of_lt before.1

section Stored

variable {bindings : List RuntimeApiPersistenceBindingRead}
  {binding : RuntimeApiPersistenceBindingRead}

theorem entriesOf_storeOf (apart : SnapshotsApart bindings) (isStored : binding ∈ bindings) :
    (storeOf bindings).entriesOf binding.snapshotKey = binding.snapshot.entries := by
  have own : (storeOf bindings).entries.filter (·.snapshotKey = binding.snapshotKey) =
      binding.entryRows :=
    filter_flatMap_of_mem (fun _ _ _ => snapshotKey_of_entryRows) apart.snapshots isStored
  rw [RuntimeRegistryStore.entriesOf, own, RuntimeApiPersistenceBindingRead.entryRows,
    sortedBy_numbered binding.entryRow _ fun _ => rfl, List.map_map]
  exact List.zipIdx_map_fst 0 binding.snapshot.entries

/-- The permits of a stored binding are read back in order. -/
theorem permitsOf_storeOf (apart : IdentitiesApart bindings) (isStored : binding ∈ bindings) :
    (storeOf bindings).permitsOf binding.admission.recordId =
      binding.permits.map fun item => (item.permitId, item.expectedRevision) := by
  have own : (storeOf bindings).permits.filter
      (·.runtimeAdmissionDecisionId = binding.admission.recordId) = binding.permitRows :=
    filter_flatMap_of_mem (fun _ _ _ => admission_of_permitRows) apart.admissions isStored
  rw [RuntimeRegistryStore.permitsOf, own, RuntimeApiPersistenceBindingRead.permitRows,
    sortedBy_numbered binding.permitRow _ fun _ => rfl, List.map_map]
  change binding.permits.zipIdx.map
    ((fun item => (item.permitId, item.expectedRevision)) ∘ Prod.fst) = _
  rw [← List.map_map, List.zipIdx_map_fst]

/-- The snapshot of a stored binding is found. -/
theorem find_snapshotRow (valid : ValidBinding binding) (apart : SnapshotsApart bindings)
    (isStored : binding ∈ bindings) :
    (storeOf bindings).snapshots.find? (·.answers binding) = some binding.snapshotRow := by
  have distinct : ((storeOf bindings).snapshots.map (·.key)).Nodup := by
    rw [storeOf, List.map_map]
    exact apart.snapshots
  have keyed : ∀ row : RuntimeRegistrySnapshotRecord, row.answers binding →
      row.key = (binding.registry.runtimeRegistrySnapshotId, binding.registry.registryRevision) :=
    fun row ⟨sameId, sameRevision, _⟩ => Prod.ext sameId sameRevision
  have bound := valid.bound
  exact find?_eq_some_of_key distinct keyed (List.mem_map_of_mem isStored)
    ⟨bound.snapshotId, bound.revision, bound.digest, bound.snapshotScope⟩

/-- A stored binding is read back. -/
theorem readExact_storeOf (valid : ValidBinding binding) (identities : IdentitiesApart bindings)
    (apart : SnapshotsApart bindings) (isStored : binding ∈ bindings) :
    (storeOf bindings).readExact binding = .ok binding := by
  have bound := valid.bound
  have requests : ((storeOf bindings).requests.map
      (·.runtimeActionResolutionRequestId)).Nodup := by
    rw [storeOf, List.map_map]
    exact identities.requests
  have decisions : ((storeOf bindings).decisions.map
      (·.runtimeActionResolutionDecisionId)).Nodup := by
    rw [storeOf, List.map_map]
    exact identities.decisions
  have admissions : ((storeOf bindings).admissions.map
      (·.runtimeAdmissionDecisionId)).Nodup := by
    rw [storeOf, List.map_map]
    exact identities.admissions
  refine readExact_eq_ok_iff.mpr ⟨binding.snapshotRow, binding.requestRow, binding.decisionRow,
    binding.admissionRow, find_snapshotRow valid apart isStored,
    (find?_key_eq_some_iff requests).mpr ⟨List.mem_map_of_mem isStored, bound.requestId⟩,
    (find?_key_eq_some_iff decisions).mpr ⟨List.mem_map_of_mem isStored, bound.decisionId⟩,
    (find?_key_eq_some_iff admissions).mpr ⟨List.mem_map_of_mem isStored, rfl⟩,
    compareExact_eq_ok_iff.mpr ⟨valid.graph, ⟨rfl, ?_, rfl, rfl, ?_,
      permitsOf_storeOf identities isStored⟩, rfl⟩⟩
  · rw [← bound.snapshotId, ← bound.revision]
    exact entriesOf_storeOf apart isStored
  · exact ⟨rfl, rfl, rfl, rfl, bound.requestId, bound.decisionId, bound.snapshotId, bound.revision,
      bound.digest, rfl, rfl, rfl, rfl, rfl⟩

/-- What is read back agrees with a stored binding on every stored field. -/
theorem stored_of_readExact (valid : ∀ stored ∈ bindings, ValidBinding stored)
    (identities : IdentitiesApart bindings) (apart : SnapshotsApart bindings)
    {expected result : RuntimeApiPersistenceBindingRead}
    (found : (storeOf bindings).readExact expected = .ok result) :
    ∃ stored ∈ bindings, stored.storedFields = expected.storedFields := by
  obtain ⟨snapshotRow, requestRow, decisionRow, admissionRow, isSnapshot, isRequest, isDecision,
    isAdmission, compared⟩ := readExact_eq_ok_iff.mp found
  obtain ⟨-, ⟨sameSnapshot, -, sameRequest, sameDecision, answers, samePermits⟩, -⟩ :=
    compareExact_eq_ok_iff.mp compared
  obtain ⟨admitted, isAdmitted, rfl⟩ :=
    List.mem_map.mp (List.mem_of_find?_eq_some isAdmission)
  obtain ⟨snapped, isSnapped, rfl⟩ := List.mem_map.mp (List.mem_of_find?_eq_some isSnapshot)
  obtain ⟨asked, isAsked, rfl⟩ := List.mem_map.mp (List.mem_of_find?_eq_some isRequest)
  obtain ⟨decided, isDecided, rfl⟩ := List.mem_map.mp (List.mem_of_find?_eq_some isDecision)
  obtain ⟨requestRecord, requestRevision, admissionRecord, admissionRevision, requestId,
    decisionId, snapshotId, revision, digest, tenant, organization, classification, lineage,
    lineageDigest⟩ := answers
  -- the admission row names the request, the decision and the snapshot, whose rows are its own
  have ownRequest : asked = admitted :=
    List.inj_on_of_nodup_map identities.requests isAsked isAdmitted
      ((of_decide_eq_true (List.find?_some isRequest :)).trans requestId.symm)
  have ownDecision : decided = admitted :=
    List.inj_on_of_nodup_map identities.decisions isDecided isAdmitted
      ((of_decide_eq_true (List.find?_some isDecision :)).trans decisionId.symm)
  have answered : snapped.snapshotRow.answers expected := by
    simpa using List.find?_some isSnapshot
  have ownSnapshot : snapped = admitted :=
    List.inj_on_of_nodup_map apart.snapshots isSnapped isAdmitted
      (Prod.ext (answered.1.trans snapshotId.symm) (answered.2.1.trans revision.symm))
  subst ownRequest ownDecision ownSnapshot
  have bound := (valid snapped isAdmitted).bound
  have permits : snapped.permits = expected.permits := by
    rw [← admissionRecord] at samePermits
    refine List.map_injective_iff.mpr (fun first second same => ?_)
      ((permitsOf_storeOf identities isAdmitted).symm.trans samePermits)
    exact RuntimeApiPersistedPermitFact.ext (congrArg Prod.fst same) (congrArg Prod.snd same)
  have registry : snapped.registry = expected.registry :=
    RuntimeApiRegistryPersistenceFact.ext (bound.snapshotId.symm.trans snapshotId)
      (bound.revision.symm.trans revision) (bound.digest.symm.trans digest)
      (bound.requestId.symm.trans requestId) (bound.decisionId.symm.trans decisionId)
  refine ⟨snapped, isAdmitted, ?_⟩
  rw [RuntimeApiPersistenceBindingRead.storedFields,
    RuntimeApiPersistenceBindingRead.storedFields, permits, registry,
    show snapped.snapshot = expected.snapshot from sameSnapshot,
    show snapped.request = expected.request from sameRequest,
    show snapped.decision = expected.decision from sameDecision,
    RuntimeApiPersistedRecordFact.ext requestRecord requestRevision,
    RuntimeApiPersistedRecordFact.ext admissionRecord admissionRevision,
    RuntimeApiPersistenceScope.ext tenant organization classification lineage lineageDigest]

end Stored

/-! ## Sequences of bindings -/

/-- The bindings are appended in order, each of them is read back, and only what agrees with one
of them on every stored field is read. -/
def StoredAndReadBack (bindings : List RuntimeApiPersistenceBindingRead) : Prop :=
  ∃ store, ({} : RuntimeRegistryStore).appendBindings bindings = .ok store ∧
    (∀ binding ∈ bindings, store.readExact binding = .ok binding) ∧
    ∀ expected result, store.readExact expected = .ok result →
      ∃ binding ∈ bindings, binding.storedFields = expected.storedFields

/-- The time of a binding is not compared. -/
theorem readExact_of_time (store : RuntimeRegistryStore)
    (expected : RuntimeApiPersistenceBindingRead) (time : DateTime) :
    (∃ result, store.readExact { expected with requestedAt := time } = .ok result) ↔
      ∃ result, store.readExact expected = .ok result := by
  simp only [readExact_eq_ok_iff, compareExact_eq_ok_iff]
  constructor
  · rintro ⟨_, snapshotRow, requestRow, decisionRow, admissionRow, isSnapshot, isRequest,
      isDecision, isAdmission, graph, agrees, -⟩
    exact ⟨expected, snapshotRow, requestRow, decisionRow, admissionRow, isSnapshot, isRequest,
      isDecision, isAdmission, graph, agrees, rfl⟩
  · rintro ⟨_, snapshotRow, requestRow, decisionRow, admissionRow, isSnapshot, isRequest,
      isDecision, isAdmission, graph, agrees, -⟩
    exact ⟨{ expected with requestedAt := time }, snapshotRow, requestRow, decisionRow,
      admissionRow, isSnapshot, isRequest, isDecision, isAdmission, graph, agrees, rfl⟩

theorem snapshotsApart_nil : SnapshotsApart [] := ⟨List.nodup_nil, List.nodup_nil⟩

/-- Valid bindings with distinct identifiers are stored and read back exactly if no two of them
share a snapshot revision and no entry identifier occurs twice; and whether a binding is read
does not depend on its time. -/
theorem storedAndReadBack_iff (bindings : List RuntimeApiPersistenceBindingRead)
    (valid : ∀ binding ∈ bindings, ValidBinding binding)
    (identities : IdentitiesApart bindings) :
    (StoredAndReadBack bindings ↔ SnapshotsApart bindings) ∧
      ∀ (store : RuntimeRegistryStore) (expected : RuntimeApiPersistenceBindingRead)
        (time : DateTime),
        (∃ result, store.readExact { expected with requestedAt := time } = .ok result) ↔
          ∃ result, store.readExact expected = .ok result := by
  refine ⟨?_, readExact_of_time⟩
  have appended {next : RuntimeRegistryStore} :
      ({} : RuntimeRegistryStore).appendBindings bindings = .ok next ↔
        SnapshotsApart bindings ∧ next = storeOf bindings :=
    @appendBindings_eq_ok_iff [] bindings valid identities snapshotsApart_nil next
  constructor
  · rintro ⟨store, isStore, -⟩
    exact (appended.mp isStore).1
  · intro apart
    exact ⟨storeOf bindings, appended.mpr ⟨apart, rfl⟩,
      fun binding isStored => readExact_storeOf (valid binding isStored) identities apart isStored,
      fun expected result => stored_of_readExact valid identities apart⟩

/-! ## Two admissions in one registry revision -/

namespace ApiSample

/-- The first revision. -/
def one : PositiveInt := .nearest 1

theorem readable : [Registry.RuntimeActionCapability.read] ≠ [] ∧
    Registry.inOrder ([Registry.RuntimeActionCapability.read].map (·.ctorIdx)) := by
  decide

/-- The action that is admitted. -/
def definition : Registry.RuntimeActionDefinition where
  identity := ⟨"notify", "notify", "1"⟩
  version := ⟨"1", "1", "1"⟩
  capabilities := [.read]
  selectors :=
    { resourceReference := "desk", purpose := "notify", executionEnvironment := .internal }
  riskProfile := ⟨.low, .readOnly, "read-only", one⟩
  inputSchema := ⟨"input", "1", "input-digest"⟩
  outputSchema := ⟨"output", "1", "output-digest"⟩
  permitRequirement :=
    { Registry.RuntimeActionPermitRequirement.none with
      permitRequired := true
      optional := by decide }
  destinationRequirement := .none
  idempotencyRequirement := .none
  retryEligibility :=
    { retryEligible := false
      maximumAttemptCount := one
      policy := Registry.RuntimeActionPolicyRequirement.none.policy }
  compensationEligibility := .none
  adapter := { adapterReference := "adapter", adapterContractVersion := "1" }
  tenantId := 6
  organizationId := 7
  classification := .internal
  rootLineageId := 8
  rootLineageDigestReference := "lineage"
  definitionDigestReference := "definition"
  createdAt := 0
  capable := readable

/-- The registry it is listed in. -/
def snapshot : Registry.RuntimeActionRegistrySnapshot where
  runtimeRegistrySnapshotId := 14
  contractVersion := ⟨"1", "1", "1"⟩
  registryRevision := one
  entries :=
    [{ runtimeRegistrySnapshotEntryId := 15
       actionDefinition := definition
       status := .active
       registryRevision := one
       recordedAt := 0 }]
  tenantId := 6
  organizationId := 7
  classification := .internal
  rootLineageId := 8
  rootLineageDigestReference := "lineage"
  snapshotDigestReference := "snapshot"
  auditMetadata :=
    { definitionCount := .nearest 1
      activeCount := .nearest 1
      disabledCount := .nearest 0
      retiredCount := .nearest 0
      invalidatedCount := .nearest 0
      auditDigestReference := "audit" }
  createdAt := 0

/-- A binding to it, of an admission and a resolution. -/
def bindingOf (admissionId requestId decisionId : UUID) : RuntimeApiPersistenceBindingRead where
  executionRequest := ⟨1, one⟩
  authorityBundle := ⟨2, one⟩
  admission := ⟨admissionId, one⟩
  executionPlan := ⟨4, one⟩
  executionState := ⟨10, .nearest 7⟩
  auditTrail := ⟨19, one⟩
  permits := [⟨11, one⟩]
  registry := ⟨14, one, "snapshot", requestId, decisionId⟩
  registryResolutionAdmission :=
    { snapshot := snapshot
      resolutionRequest :=
        { runtimeActionResolutionRequestId := requestId
          snapshotReference := ⟨14, one, "snapshot", 6, 7, .internal⟩
          actionIdentity := definition.identity
          selectors := definition.selectors
          riskLevel := .low
          sideEffectLevelReference := "read-only"
          inputSchemaReference := "input"
          outputSchemaReference := "output"
          adapterReference := "adapter"
          tenantId := 6
          organizationId := 7
          classification := .internal
          rootLineageId := 8
          rootLineageDigestReference := "lineage"
          requestedAt := 0 }
      resolutionDecision :=
        { runtimeActionResolutionDecisionId := decisionId
          runtimeActionResolutionRequestId := requestId
          snapshotReference := ⟨14, one, "snapshot", 6, 7, .internal⟩
          decisionStatus := .resolved
          reasonCodes := [.callerSupplied]
          resolvedSnapshotEntryId := some 15
          tenantId := 6
          organizationId := 7
          classification := .internal
          rootLineageId := 8
          rootLineageDigestReference := "lineage"
          decidedAt := 0 }
      admissionDecision :=
        { runtimeAdmissionDecisionId := admissionId
          runtimeExecutionRequestId := 1
          runtimeAuthorityContextId := 40
          decisionStatus := .admitted
          permitReferenceIds := [11]
          actorId := 9
          tenantId := 6
          organizationId := 7
          classification := .internal
          policyRevision := one
          registryRevision := some one
          rootLineageId := 8
          rootLineageDigestReference := "lineage"
          decidedAt := 0
          lifecycle := ⟨List.cons_ne_nil _ _, rfl⟩ } }
  scope :=
    { tenantId := 6
      organizationId := 7
      classification := .internal
      rootLineageId := 8
      rootLineageDigestReference := "lineage" }
  requestedAt := 6

/-- The binding of the first admission. -/
def binding : RuntimeApiPersistenceBindingRead := bindingOf 3 41 18

/-- The binding of a second admission, in the same registry revision. -/
def secondBinding : RuntimeApiPersistenceBindingRead := bindingOf 42 43 44

theorem binding_valid : ValidBinding binding := ⟨by decide +kernel, by decide +kernel⟩

theorem secondBinding_valid : ValidBinding secondBinding := ⟨by decide +kernel, by decide +kernel⟩

end ApiSample

open ApiSample in
/-- One binding is stored and read back. -/
theorem storedAndReadBack_one : StoredAndReadBack [binding] :=
  (storedAndReadBack_iff [binding] (List.forall_mem_singleton.mpr binding_valid)
    ⟨by decide, by decide, by decide⟩).1.mpr ⟨by decide, by decide⟩

open ApiSample in
/-- Two admissions in one registry revision are both valid, and only the first of them is
stored. -/
theorem second_admission_conflicts :
    (∀ one ∈ [binding, secondBinding], ValidBinding one) ∧
      IdentitiesApart [binding, secondBinding] ∧ ¬ StoredAndReadBack [binding, secondBinding] := by
  refine ⟨?_, ⟨by decide, by decide, by decide⟩, ?_⟩
  · exact List.forall_mem_cons.mpr
      ⟨binding_valid, List.forall_mem_singleton.mpr secondBinding_valid⟩
  · rintro ⟨store, appended, -⟩
    have refused : ({} : RuntimeRegistryStore).appendBindings [binding, secondBinding] =
        .error identityConflicted := by decide +kernel
    rw [refused] at appended
    cases appended

end PolicyOS.Runtime
