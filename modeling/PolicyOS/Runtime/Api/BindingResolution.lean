import PolicyOS.Runtime.Orchestration.StateAppend
import PolicyOS.Runtime.Persistence.LogicalResultRepositories
import PolicyOS.Runtime.Persistence.RegistryReadBack

/-!
# What backs a resolved binding

A binding is resolved against the registry tables alone: the admission it names is stored, at its
revision and in its scope. The records it names are looked up nowhere, so that a resolved binding
is backed by current records exactly if the record tables happen to hold them.
-/

namespace PolicyOS.Runtime

open Foundation

/-! ## Resolution -/

/-- What an operation of the API raises. -/
inductive RuntimeApiFailure
  | contractConflict (message : String)
  | tenantBinding (message : String)
  | permissionFact (message : String)
  | idempotency (message : String)
  | integration (message : String)
  | persistence (failure : RuntimePersistenceFailure)
  | registry (error : Registry.RuntimeRegistryError)
  | callback (message : String)
  | facade (message : String)
  deriving DecidableEq

/-- A contract of the API that does not hold. -/
def conflict (message : String) : RuntimeApiFailure := .contractConflict message

/-- A resolved binding must be of the given scope. -/
def validateRuntimeApiPersistenceBinding (binding : RuntimeApiPersistenceBindingRead)
    (tenantId organizationId : UUID) (classification : DataClassification) (rootLineageId : UUID)
    (rootLineageDigestReference : BoundedId) : Except RuntimeApiFailure Unit := do
  rejectIf (binding.scope.tenantId ≠ tenantId) (conflict "persisted fact tenant mismatch")
  rejectIf (binding.scope.organizationId ≠ organizationId)
    (conflict "persisted fact organization mismatch")
  rejectIf (binding.scope.classification ≠ classification)
    (conflict "persisted fact classification mismatch")
  rejectIf (binding.scope.rootLineageId ≠ rootLineageId)
    (conflict "persisted fact lineage mismatch")
  rejectIf (binding.scope.rootLineageDigestReference ≠ rootLineageDigestReference)
    (conflict "persisted fact lineage digest mismatch")

/-- What is resolved must be what was asked for. -/
def validateRuntimeApiPersistenceResolution
    (requested resolved : RuntimeApiPersistenceBindingRead) :
    Except RuntimeApiFailure RuntimeApiPersistenceBindingRead := do
  rejectIf (resolved ≠ requested) (conflict "persisted facts are unavailable or conflict")
  pure resolved

/-- The resolution and the admission of a binding must be active, and those it names. -/
def validateRuntimeApiRegistryResolutionAdmission (binding : RuntimeApiPersistenceBindingRead) :
    Except RuntimeApiFailure Unit := do
  let facts := binding.registryResolutionAdmission
  let snapshot := facts.snapshot
  let request := facts.resolutionRequest
  let decision := facts.resolutionDecision
  let admission := facts.admissionDecision
  let registry := binding.registry
  let scope := binding.scope
  (Registry.validateRuntimeRegistrySnapshot snapshot).mapError .registry
  (Registry.validateRuntimeActionResolutionDecision decision request snapshot).mapError .registry
  rejectIf (decision.decisionStatus ≠ .resolved)
    (conflict "persisted Registry action is not resolved")
  rejectIf (admission.decisionStatus ≠ .admitted) (conflict "persisted admission is not active")
  rejectIf (snapshot.runtimeRegistrySnapshotId ≠ registry.runtimeRegistrySnapshotId ∨
      snapshot.registryRevision ≠ registry.registryRevision ∨
      snapshot.snapshotDigestReference ≠ registry.snapshotDigestReference ∨
      request.runtimeActionResolutionRequestId ≠ registry.runtimeActionResolutionRequestId ∨
      decision.runtimeActionResolutionDecisionId ≠ registry.runtimeActionResolutionDecisionId)
    (conflict "persisted Registry identity is substituted or stale")
  rejectIf (¬ scope.isOf snapshot.tenantId snapshot.organizationId snapshot.classification
        snapshot.rootLineageId snapshot.rootLineageDigestReference ∨
      ¬ scope.isOf request.tenantId request.organizationId request.classification
        request.rootLineageId request.rootLineageDigestReference ∨
      ¬ scope.isOf decision.tenantId decision.organizationId decision.classification
        decision.rootLineageId decision.rootLineageDigestReference ∨
      ¬ scope.isOf admission.tenantId admission.organizationId admission.classification
        admission.rootLineageId admission.rootLineageDigestReference)
    (conflict "Registry or admission scope differs")
  rejectIf (admission.runtimeAdmissionDecisionId ≠ binding.admission.recordId ∨
      admission.runtimeExecutionRequestId ≠ binding.executionRequest.recordId ∨
      admission.registryRevision ≠ some registry.registryRevision ∨
      admission.permitReferenceIds ≠ binding.permits.map (·.permitId))
    (conflict "admission identity or permit set differs")

namespace RuntimeApiStore

/-- Resolve the binding an operation expects. -/
def resolveBinding (store : RuntimeApiStore) (expected : RuntimeApiPersistenceBindingRead) :
    Except RuntimeApiFailure RuntimeApiPersistenceBindingRead := do
  let resolved ← (store.readExact expected).mapError .persistence
  let resolved ← validateRuntimeApiPersistenceResolution expected resolved
  validateRuntimeApiPersistenceBinding resolved expected.scope.tenantId
    expected.scope.organizationId expected.scope.classification expected.scope.rootLineageId
    expected.scope.rootLineageDigestReference
  validateRuntimeApiRegistryResolutionAdmission resolved
  pure resolved

end RuntimeApiStore

/-! ## A stored binding -/

namespace ApiSample

open CommittedTransition (runningState)

/-- The stored revision of the running state. -/
def stateRow : RuntimeRecordRevision where
  runtimeRepositoryWriteReceiptId := 51
  runtimeRepositoryWriteRequestId := some 52
  runtimeTransactionId := none
  metadata := metadataFor (.executionState runningState)
  recordRevision := 7
  recordDigestReference := "running"
  payload := .executionState runningState
  requestedAt := 6
  storedAt := 6

/-- A store in which the binding and the running state are stored. -/
def store : RuntimeApiStore where
  registry := storeOf [binding]
  records := { revisions := [stateRow] }

end ApiSample

/-! ## Backed bindings -/

/-- A record is stored, and at its current revision. -/
def RuntimeRecordStore.isCurrent (records : RuntimeRecordStore) (key : RecordKey)
    (revision : PositiveInt) : Prop :=
  ∃ head ∈ records.heads, head.key = key ∧ head.currentRevision = revision.val

/-- What a record of a binding is stored under. -/
def RuntimeApiPersistenceBindingRead.recordKey (binding : RuntimeApiPersistenceBindingRead)
    (recordType : RuntimePersistenceRecordType) (recordId : UUID) : RecordKey :=
  ⟨recordType, binding.scope.tenantId, binding.scope.organizationId, recordId⟩

/-- The records a binding names, each at the revision it is expected at. -/
def RuntimeApiPersistenceBindingRead.namedRecords (binding : RuntimeApiPersistenceBindingRead) :
    List (RecordKey × PositiveInt) :=
  [(binding.recordKey .executionRequest binding.executionRequest.recordId,
      binding.executionRequest.expectedRevision),
    (binding.recordKey .authorityBundle binding.authorityBundle.recordId,
      binding.authorityBundle.expectedRevision),
    (binding.recordKey .executionPlan binding.executionPlan.recordId,
      binding.executionPlan.expectedRevision),
    (binding.recordKey .executionState binding.executionState.recordId,
      binding.executionState.expectedRevision),
    (binding.recordKey .auditTrail binding.auditTrail.recordId,
      binding.auditTrail.expectedRevision)] ++
  binding.permits.map fun permit =>
    (binding.recordKey .permitReference permit.permitId, permit.expectedRevision)

/-- The stored authority bundle of a binding decided its admission. -/
def RuntimeRecordStore.holdsAdmission (records : RuntimeRecordStore)
    (binding : RuntimeApiPersistenceBindingRead) : Prop :=
  ∃ row ∈ records.revisions,
    row.metadata.key = binding.recordKey .authorityBundle binding.authorityBundle.recordId ∧
    row.recordRevision = binding.authorityBundle.expectedRevision.val ∧
    ∃ bundle, row.payload = .authorityBundle bundle ∧
      bundle.admissionDecision = binding.registryResolutionAdmission.admissionDecision

/-- The record tables hold what a binding names: its records at their current revisions, and its
admission in the authority bundle. -/
structure RecordsCurrent (records : RuntimeRecordStore)
    (binding : RuntimeApiPersistenceBindingRead) : Prop where
  named : ∀ record ∈ binding.namedRecords, records.isCurrent record.1 record.2
  admission : records.holdsAdmission binding

/-- The registry tables hold the admission a binding names, in its scope and at its revision. -/
def AdmissionStored (registry : RuntimeRegistryStore)
    (binding : RuntimeApiPersistenceBindingRead) : Prop :=
  ∃ row ∈ registry.admissions, row.answers binding

/-- A binding is backed by what is stored: its admission and its records. -/
structure Backed (store : RuntimeApiStore) (binding : RuntimeApiPersistenceBindingRead) :
    Prop where
  admission : AdmissionStored store.registry binding
  records : RecordsCurrent store.records binding

/-! ## What a resolution establishes -/

section Resolution

variable {store : RuntimeApiStore} {binding resolved : RuntimeApiPersistenceBindingRead}

theorem readExact_of_resolveBinding (isResolved : store.resolveBinding binding = .ok resolved) :
    store.registry.readExact binding = .ok binding ∧ resolved = binding := by
  simp only [RuntimeApiStore.resolveBinding, RuntimeApiStore.readExact,
    validateRuntimeApiPersistenceResolution, bind_eq_ok_iff, exists_unit_iff,
    rejectIf_eq_ok_iff, not_not, pure_eq_ok_iff, mapError_eq_ok_iff] at isResolved
  obtain ⟨found, read, _, ⟨rfl, rfl⟩, -, -, rfl⟩ := isResolved
  exact ⟨read, rfl⟩

theorem admissionStored_of_resolveBinding
    (isResolved : store.resolveBinding binding = .ok resolved) :
    AdmissionStored store.registry binding := by
  obtain ⟨read, -⟩ := readExact_of_resolveBinding isResolved
  obtain ⟨_, _, _, admissionRow, -, -, -, found, compared⟩ := readExact_eq_ok_iff.mp read
  obtain ⟨-, ⟨-, -, -, -, answers, -⟩, -⟩ := compareExact_eq_ok_iff.mp compared
  exact ⟨admissionRow, List.mem_of_find?_eq_some found, answers⟩

theorem resolveBinding_of_registry {other : RuntimeApiStore}
    (sameRegistry : other.registry = store.registry) :
    other.resolveBinding binding = store.resolveBinding binding := by
  simp only [RuntimeApiStore.resolveBinding, RuntimeApiStore.readExact, sameRegistry]

theorem not_recordsCurrent_empty : ¬ RecordsCurrent {} binding := by
  rintro ⟨-, _, absent, -⟩
  cases absent

end Resolution

end PolicyOS.Runtime
