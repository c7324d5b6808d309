import PolicyOS.Foundation.OwnedRows
import PolicyOS.Foundation.SortedBy
import PolicyOS.Runtime.Ports.ApiPersistence

/-!
# Registry persistence

The tables a binding is stored in, with their keys and constraints: the snapshot and its
entries, the resolution request and decision, the admission and its permits, and the requests
to reconcile. Payload columns hold the value that was serialized into them, and columns that
nothing reads are left out. Rows are only added.
-/

namespace PolicyOS.Runtime

open Foundation

/-! ## Failures -/

/-- What persistence of the API raises: its own errors, those of the registry and the ports, and
a constraint of the database. -/
inductive RuntimePersistenceFailure
  | integrity
  | storage (message : String)
  | conflict (message : String)
  | transaction (message : String)
  | notFound (message : String)
  | binding (message : String)
  | registry (error : Registry.RuntimeRegistryError)
  | port (error : RuntimePortError)
  deriving DecidableEq

/-! ## Tables -/

/-- What a snapshot is stored under. -/
abbrev SnapshotKey := UUID × PositiveInt

/-- One stored snapshot. -/
structure RuntimeRegistrySnapshotRecord where
  runtimeRegistrySnapshotId : UUID
  registryRevision : PositiveInt
  tenantId : UUID
  organizationId : UUID
  classification : DataClassification
  rootLineageId : UUID
  rootLineageDigestReference : BoundedId
  snapshotDigestReference : BoundedId
  snapshotPayload : Registry.RuntimeActionRegistrySnapshot
  deriving DecidableEq

/-- The primary key of a snapshot. -/
def RuntimeRegistrySnapshotRecord.key (row : RuntimeRegistrySnapshotRecord) : SnapshotKey :=
  (row.runtimeRegistrySnapshotId, row.registryRevision)

/-- One stored entry of a snapshot. -/
structure RuntimeRegistrySnapshotEntryRecord where
  runtimeRegistrySnapshotEntryId : UUID
  runtimeRegistrySnapshotId : UUID
  registryRevision : PositiveInt
  canonicalPosition : Nat
  actionIdentity : RuntimeActionIdentity
  status : RuntimeActionStatus
  entryPayload : Registry.RuntimeRegistrySnapshotEntry
  deriving DecidableEq

/-- The snapshot an entry refers to. -/
def RuntimeRegistrySnapshotEntryRecord.snapshotKey (row : RuntimeRegistrySnapshotEntryRecord) :
    SnapshotKey :=
  (row.runtimeRegistrySnapshotId, row.registryRevision)

/-- The primary key, the position in the snapshot or the one active entry of an action rejects
both rows. -/
def RuntimeRegistrySnapshotEntryRecord.conflictsWith
    (row other : RuntimeRegistrySnapshotEntryRecord) : Prop :=
  row.runtimeRegistrySnapshotEntryId = other.runtimeRegistrySnapshotEntryId ∨
  (row.snapshotKey = other.snapshotKey ∧ row.canonicalPosition = other.canonicalPosition) ∨
  (row.snapshotKey = other.snapshotKey ∧ row.status = .active ∧ other.status = .active ∧
    row.actionIdentity = other.actionIdentity)

instance RuntimeRegistrySnapshotEntryRecord.decidableConflictsWith
    (row other : RuntimeRegistrySnapshotEntryRecord) : Decidable (row.conflictsWith other) :=
  inferInstanceAs (Decidable (_ ∨ _ ∧ _ ∨ _ ∧ _ ∧ _ ∧ _))

/-- One stored resolution request. -/
structure RuntimeRegistryResolutionRequestRecord where
  runtimeActionResolutionRequestId : UUID
  runtimeRegistrySnapshotId : UUID
  registryRevision : PositiveInt
  requestPayload : Registry.RuntimeActionResolutionRequest
  deriving DecidableEq

/-- One stored resolution decision. -/
structure RuntimeRegistryResolutionDecisionRecord where
  runtimeActionResolutionDecisionId : UUID
  runtimeActionResolutionRequestId : UUID
  runtimeRegistrySnapshotId : UUID
  registryRevision : PositiveInt
  decisionStatus : RuntimeActionResolutionStatus
  resolvedSnapshotEntryId : Option UUID
  decisionPayload : Registry.RuntimeActionResolutionDecision
  deriving DecidableEq

/-- One stored admission binding. -/
structure RuntimeRegistryAdmissionBindingRecord where
  runtimeAdmissionDecisionId : UUID
  admissionExpectedRevision : PositiveInt
  runtimeExecutionRequestId : UUID
  executionRequestExpectedRevision : PositiveInt
  runtimeActionResolutionRequestId : UUID
  runtimeActionResolutionDecisionId : UUID
  runtimeRegistrySnapshotId : UUID
  registryRevision : PositiveInt
  snapshotDigestReference : BoundedId
  tenantId : UUID
  organizationId : UUID
  classification : DataClassification
  rootLineageId : UUID
  rootLineageDigestReference : BoundedId
  boundAt : DateTime
  deriving DecidableEq

/-- One stored permit of an admission. -/
structure RuntimeRegistryPermitBindingRecord where
  runtimeAdmissionDecisionId : UUID
  permitId : UUID
  expectedRevision : PositiveInt
  canonicalPosition : Nat
  deriving DecidableEq

/-- The primary key or the position under the admission rejects both rows. -/
def RuntimeRegistryPermitBindingRecord.conflictsWith
    (row other : RuntimeRegistryPermitBindingRecord) : Prop :=
  row.runtimeAdmissionDecisionId = other.runtimeAdmissionDecisionId ∧
    (row.permitId = other.permitId ∨ row.canonicalPosition = other.canonicalPosition)

instance RuntimeRegistryPermitBindingRecord.decidableConflictsWith
    (row other : RuntimeRegistryPermitBindingRecord) : Decidable (row.conflictsWith other) :=
  inferInstanceAs (Decidable (_ ∧ (_ ∨ _)))

/-- One stored request to reconcile. -/
structure RuntimeReconciliationRequestRecord where
  runtimeEffectReconciliationRequestId : UUID
  runtimeEffectId : UUID
  tenantId : UUID
  organizationId : UUID
  classification : DataClassification
  runtimeAdmissionDecisionId : UUID
  admissionExpectedRevision : PositiveInt
  runtimeExecutionRequestId : UUID
  executionRequestExpectedRevision : PositiveInt
  runtimeActionResolutionRequestId : UUID
  runtimeActionResolutionDecisionId : UUID
  runtimeRegistrySnapshotId : UUID
  registryRevision : PositiveInt
  snapshotDigestReference : BoundedId
  rootLineageId : UUID
  rootLineageDigestReference : BoundedId
  localWriteSetId : UUID
  transportReceiptId : UUID
  writeSetDigestReference : BoundedId
  requestPayload : RuntimeEffectReconciliationRequest
  requestedAt : DateTime
  stagedAt : DateTime
  deriving DecidableEq

/-- The registry tables. -/
structure RuntimeRegistryStore where
  snapshots : List RuntimeRegistrySnapshotRecord := []
  entries : List RuntimeRegistrySnapshotEntryRecord := []
  requests : List RuntimeRegistryResolutionRequestRecord := []
  decisions : List RuntimeRegistryResolutionDecisionRecord := []
  admissions : List RuntimeRegistryAdmissionBindingRecord := []
  permits : List RuntimeRegistryPermitBindingRecord := []
  reconciliations : List RuntimeReconciliationRequestRecord := []
  deriving DecidableEq

/-! ## The rows of a binding -/

namespace RuntimeApiPersistenceBindingRead

/-- The snapshot a binding is bound to. -/
def snapshot (binding : RuntimeApiPersistenceBindingRead) :
    Registry.RuntimeActionRegistrySnapshot :=
  binding.registryResolutionAdmission.snapshot

/-- The resolution a binding asked for. -/
def request (binding : RuntimeApiPersistenceBindingRead) :
    Registry.RuntimeActionResolutionRequest :=
  binding.registryResolutionAdmission.resolutionRequest

/-- The decision on it. -/
def decision (binding : RuntimeApiPersistenceBindingRead) :
    Registry.RuntimeActionResolutionDecision :=
  binding.registryResolutionAdmission.resolutionDecision

/-- The primary key of the snapshot. -/
def snapshotKey (binding : RuntimeApiPersistenceBindingRead) : SnapshotKey :=
  (binding.snapshot.runtimeRegistrySnapshotId, binding.snapshot.registryRevision)

/-- The identifiers of the entries of the snapshot. -/
def entryIds (binding : RuntimeApiPersistenceBindingRead) : List UUID :=
  binding.snapshot.entries.map (·.runtimeRegistrySnapshotEntryId)

/-- The row of the snapshot. -/
def snapshotRow (binding : RuntimeApiPersistenceBindingRead) : RuntimeRegistrySnapshotRecord where
  runtimeRegistrySnapshotId := binding.snapshot.runtimeRegistrySnapshotId
  registryRevision := binding.snapshot.registryRevision
  tenantId := binding.snapshot.tenantId
  organizationId := binding.snapshot.organizationId
  classification := binding.snapshot.classification
  rootLineageId := binding.snapshot.rootLineageId
  rootLineageDigestReference := binding.snapshot.rootLineageDigestReference
  snapshotDigestReference := binding.snapshot.snapshotDigestReference
  snapshotPayload := binding.snapshot

/-- The row of an entry at its position. -/
def entryRow (binding : RuntimeApiPersistenceBindingRead)
    (entry : Registry.RuntimeRegistrySnapshotEntry × Nat) :
    RuntimeRegistrySnapshotEntryRecord where
  runtimeRegistrySnapshotEntryId := entry.1.runtimeRegistrySnapshotEntryId
  runtimeRegistrySnapshotId := binding.snapshot.runtimeRegistrySnapshotId
  registryRevision := binding.snapshot.registryRevision
  canonicalPosition := entry.2
  actionIdentity := entry.1.actionDefinition.identity
  status := entry.1.status
  entryPayload := entry.1

/-- The rows of the entries. -/
def entryRows (binding : RuntimeApiPersistenceBindingRead) :
    List RuntimeRegistrySnapshotEntryRecord :=
  binding.snapshot.entries.zipIdx.map binding.entryRow

/-- The row of the resolution request. -/
def requestRow (binding : RuntimeApiPersistenceBindingRead) :
    RuntimeRegistryResolutionRequestRecord where
  runtimeActionResolutionRequestId := binding.request.runtimeActionResolutionRequestId
  runtimeRegistrySnapshotId := binding.snapshot.runtimeRegistrySnapshotId
  registryRevision := binding.snapshot.registryRevision
  requestPayload := binding.request

/-- The row of the resolution decision. -/
def decisionRow (binding : RuntimeApiPersistenceBindingRead) :
    RuntimeRegistryResolutionDecisionRecord where
  runtimeActionResolutionDecisionId := binding.decision.runtimeActionResolutionDecisionId
  runtimeActionResolutionRequestId := binding.request.runtimeActionResolutionRequestId
  runtimeRegistrySnapshotId := binding.snapshot.runtimeRegistrySnapshotId
  registryRevision := binding.snapshot.registryRevision
  decisionStatus := binding.decision.decisionStatus
  resolvedSnapshotEntryId := binding.decision.resolvedSnapshotEntryId
  decisionPayload := binding.decision

/-- The row of the admission. -/
def admissionRow (binding : RuntimeApiPersistenceBindingRead) :
    RuntimeRegistryAdmissionBindingRecord where
  runtimeAdmissionDecisionId := binding.admission.recordId
  admissionExpectedRevision := binding.admission.expectedRevision
  runtimeExecutionRequestId := binding.executionRequest.recordId
  executionRequestExpectedRevision := binding.executionRequest.expectedRevision
  runtimeActionResolutionRequestId := binding.request.runtimeActionResolutionRequestId
  runtimeActionResolutionDecisionId := binding.decision.runtimeActionResolutionDecisionId
  runtimeRegistrySnapshotId := binding.snapshot.runtimeRegistrySnapshotId
  registryRevision := binding.snapshot.registryRevision
  snapshotDigestReference := binding.snapshot.snapshotDigestReference
  tenantId := binding.scope.tenantId
  organizationId := binding.scope.organizationId
  classification := binding.scope.classification
  rootLineageId := binding.scope.rootLineageId
  rootLineageDigestReference := binding.scope.rootLineageDigestReference
  boundAt := binding.requestedAt

/-- The row of a permit at its position. -/
def permitRow (binding : RuntimeApiPersistenceBindingRead)
    (permit : RuntimeApiPersistedPermitFact × Nat) : RuntimeRegistryPermitBindingRecord where
  runtimeAdmissionDecisionId := binding.admission.recordId
  permitId := permit.1.permitId
  expectedRevision := permit.1.expectedRevision
  canonicalPosition := permit.2

/-- The rows of the permits. -/
def permitRows (binding : RuntimeApiPersistenceBindingRead) :
    List RuntimeRegistryPermitBindingRecord :=
  binding.permits.zipIdx.map binding.permitRow

end RuntimeApiPersistenceBindingRead

/-! ## Appending a binding -/

/-- A snapshot, a request and a decision must agree with each other. -/
def validateRegistryGraph (snapshot : Registry.RuntimeActionRegistrySnapshot)
    (request : Registry.RuntimeActionResolutionRequest)
    (decision : Registry.RuntimeActionResolutionDecision) :
    Except Registry.RuntimeRegistryError Unit := do
  Registry.validateRuntimeRegistrySnapshot snapshot
  Registry.validateRuntimeActionResolutionDecision decision request snapshot

/-- A key, unique, foreign key or check constraint rejected a row. -/
def identityConflicted : RuntimePersistenceFailure :=
  .conflict "Registry persistence identity conflicted"

namespace RuntimeRegistryStore

/-- Insert one row, unless a constraint rejects it. -/
def insertSnapshot (store : RuntimeRegistryStore) (row : RuntimeRegistrySnapshotRecord) :
    Except RuntimePersistenceFailure RuntimeRegistryStore := do
  rejectIf ((∃ other ∈ store.snapshots, row.key = other.key) ∨
    row.tenantId = row.organizationId) identityConflicted
  pure { store with snapshots := store.snapshots ++ [row] }

/-- Insert the entries of one snapshot in turn. -/
def insertEntries (store : RuntimeRegistryStore)
    (rows : List RuntimeRegistrySnapshotEntryRecord) :
    Except RuntimePersistenceFailure RuntimeRegistryStore := do
  let entries ← insertRows
    (fun row => rejectIf (row.snapshotKey ∉ store.snapshots.map (·.key)) identityConflicted)
    (·.conflictsWith ·) identityConflicted store.entries rows
  pure { store with entries := entries }

/-- Insert one resolution request. -/
def insertRequest (store : RuntimeRegistryStore) (row : RuntimeRegistryResolutionRequestRecord) :
    Except RuntimePersistenceFailure RuntimeRegistryStore := do
  rejectIf ((∃ other ∈ store.requests,
        row.runtimeActionResolutionRequestId = other.runtimeActionResolutionRequestId) ∨
      (row.runtimeRegistrySnapshotId, row.registryRevision) ∉ store.snapshots.map (·.key))
    identityConflicted
  pure { store with requests := store.requests ++ [row] }

/-- The request, and the resolved entry where there is one, are stored for the snapshot. -/
def decisionReferences (store : RuntimeRegistryStore)
    (row : RuntimeRegistryResolutionDecisionRecord) : Prop :=
  (∃ request ∈ store.requests,
    request.runtimeActionResolutionRequestId = row.runtimeActionResolutionRequestId ∧
    request.runtimeRegistrySnapshotId = row.runtimeRegistrySnapshotId ∧
    request.registryRevision = row.registryRevision) ∧
  ∀ entryId ∈ row.resolvedSnapshotEntryId, ∃ entry ∈ store.entries,
    entry.snapshotKey = (row.runtimeRegistrySnapshotId, row.registryRevision) ∧
    entry.runtimeRegistrySnapshotEntryId = entryId

instance (store : RuntimeRegistryStore) (row : RuntimeRegistryResolutionDecisionRecord) :
    Decidable (store.decisionReferences row) :=
  inferInstanceAs (Decidable (_ ∧ _))

/-- Insert one resolution decision. -/
def insertDecision (store : RuntimeRegistryStore)
    (row : RuntimeRegistryResolutionDecisionRecord) :
    Except RuntimePersistenceFailure RuntimeRegistryStore := do
  rejectIf ((∃ other ∈ store.decisions,
        row.runtimeActionResolutionDecisionId = other.runtimeActionResolutionDecisionId) ∨
      ¬ store.decisionReferences row ∨
      ¬ (row.decisionStatus = .resolved ↔ row.resolvedSnapshotEntryId ≠ none))
    identityConflicted
  pure { store with decisions := store.decisions ++ [row] }

/-- Insert one admission. -/
def insertAdmission (store : RuntimeRegistryStore)
    (row : RuntimeRegistryAdmissionBindingRecord) :
    Except RuntimePersistenceFailure RuntimeRegistryStore := do
  rejectIf ((∃ other ∈ store.admissions,
        row.runtimeAdmissionDecisionId = other.runtimeAdmissionDecisionId) ∨
      ¬ ∃ decision ∈ store.decisions,
        decision.runtimeActionResolutionDecisionId = row.runtimeActionResolutionDecisionId ∧
        decision.runtimeActionResolutionRequestId = row.runtimeActionResolutionRequestId ∧
        decision.runtimeRegistrySnapshotId = row.runtimeRegistrySnapshotId ∧
        decision.registryRevision = row.registryRevision)
    identityConflicted
  pure { store with admissions := store.admissions ++ [row] }

/-- Insert the permits of one admission in turn. -/
def insertPermits (store : RuntimeRegistryStore)
    (rows : List RuntimeRegistryPermitBindingRecord) :
    Except RuntimePersistenceFailure RuntimeRegistryStore := do
  let permits ← insertRows
    (fun row => rejectIf (row.runtimeAdmissionDecisionId ∉
      store.admissions.map (·.runtimeAdmissionDecisionId)) identityConflicted)
    (·.conflictsWith ·) identityConflicted store.permits rows
  pure { store with permits := permits }

/-- Insert the rows of a binding, table by table. -/
def appendBinding (store : RuntimeRegistryStore) (binding : RuntimeApiPersistenceBindingRead) :
    Except RuntimePersistenceFailure RuntimeRegistryStore := do
  (validateRegistryGraph binding.snapshot binding.request binding.decision).mapError .registry
  let store ← store.insertSnapshot binding.snapshotRow
  let store ← store.insertEntries binding.entryRows
  let store ← store.insertRequest binding.requestRow
  let store ← store.insertDecision binding.decisionRow
  let store ← store.insertAdmission binding.admissionRow
  store.insertPermits binding.permitRows

/-- Append bindings in order, each in the transaction the earlier ones left. -/
def appendBindings (store : RuntimeRegistryStore) :
    List RuntimeApiPersistenceBindingRead → Except RuntimePersistenceFailure RuntimeRegistryStore
  | [] => pure store
  | binding :: rest => do
      let store ← store.appendBinding binding
      store.appendBindings rest

end RuntimeRegistryStore

/-! ## Reading a binding back -/

/-- The snapshot row that is asked for. -/
def RuntimeRegistrySnapshotRecord.answers (row : RuntimeRegistrySnapshotRecord)
    (expected : RuntimeApiPersistenceBindingRead) : Prop :=
  row.runtimeRegistrySnapshotId = expected.registry.runtimeRegistrySnapshotId ∧
  row.registryRevision = expected.registry.registryRevision ∧
  row.snapshotDigestReference = expected.registry.snapshotDigestReference ∧
  expected.scope.isOf row.tenantId row.organizationId row.classification row.rootLineageId
    row.rootLineageDigestReference

instance RuntimeRegistrySnapshotRecord.decidableAnswers
    (row : RuntimeRegistrySnapshotRecord) (expected : RuntimeApiPersistenceBindingRead) :
    Decidable (row.answers expected) :=
  inferInstanceAs (Decidable (_ ∧ _ ∧ _ ∧ _))

/-- The admission row is of the binding that is asked for. -/
def RuntimeRegistryAdmissionBindingRecord.answers (row : RuntimeRegistryAdmissionBindingRecord)
    (expected : RuntimeApiPersistenceBindingRead) : Prop :=
  row.runtimeExecutionRequestId = expected.executionRequest.recordId ∧
  row.executionRequestExpectedRevision = expected.executionRequest.expectedRevision ∧
  row.runtimeAdmissionDecisionId = expected.admission.recordId ∧
  row.admissionExpectedRevision = expected.admission.expectedRevision ∧
  row.runtimeActionResolutionRequestId = expected.registry.runtimeActionResolutionRequestId ∧
  row.runtimeActionResolutionDecisionId = expected.registry.runtimeActionResolutionDecisionId ∧
  row.runtimeRegistrySnapshotId = expected.registry.runtimeRegistrySnapshotId ∧
  row.registryRevision = expected.registry.registryRevision ∧
  row.snapshotDigestReference = expected.registry.snapshotDigestReference ∧
  expected.scope.isOf row.tenantId row.organizationId row.classification row.rootLineageId
    row.rootLineageDigestReference

instance RuntimeRegistryAdmissionBindingRecord.decidableAnswers
    (row : RuntimeRegistryAdmissionBindingRecord) (expected : RuntimeApiPersistenceBindingRead) :
    Decidable (row.answers expected) :=
  inferInstanceAs (Decidable (_ ∧ _ ∧ _ ∧ _ ∧ _ ∧ _ ∧ _ ∧ _ ∧ _ ∧ _))

namespace RuntimeRegistryStore

/-- The stored entries of a snapshot, in order. -/
def entriesOf (store : RuntimeRegistryStore) (key : SnapshotKey) :
    List Registry.RuntimeRegistrySnapshotEntry :=
  (sortedBy (·.canonicalPosition) (store.entries.filter (·.snapshotKey = key))).map
    (·.entryPayload)

/-- The stored permits of an admission, in order. -/
def permitsOf (store : RuntimeRegistryStore) (admissionId : UUID) :
    List (UUID × PositiveInt) :=
  (sortedBy (·.canonicalPosition) (store.permits.filter
    (·.runtimeAdmissionDecisionId = admissionId))).map fun row =>
      (row.permitId, row.expectedRevision)

/-- Compare the rows of a binding with what is expected of them; what is returned is the
expectation. -/
def compareExact (store : RuntimeRegistryStore) (expected : RuntimeApiPersistenceBindingRead)
    (snapshotRow : RuntimeRegistrySnapshotRecord)
    (requestRow : RuntimeRegistryResolutionRequestRecord)
    (decisionRow : RuntimeRegistryResolutionDecisionRecord)
    (admissionRow : RuntimeRegistryAdmissionBindingRecord) :
    Except RuntimePersistenceFailure RuntimeApiPersistenceBindingRead := do
  (validateRegistryGraph snapshotRow.snapshotPayload requestRow.requestPayload
    decisionRow.decisionPayload).mapError .registry
  rejectIf (snapshotRow.snapshotPayload ≠ expected.snapshot ∨
      store.entriesOf (expected.registry.runtimeRegistrySnapshotId,
        expected.registry.registryRevision) ≠ snapshotRow.snapshotPayload.entries ∨
      requestRow.requestPayload ≠ expected.request ∨
      decisionRow.decisionPayload ≠ expected.decision ∨
      ¬ admissionRow.answers expected ∨
      store.permitsOf expected.admission.recordId ≠
        expected.permits.map fun item => (item.permitId, item.expectedRevision))
    (.binding "stored Registry persistence binding differs")
  pure expected

/-- Read the rows a binding names, and compare them with it. -/
def readExact (store : RuntimeRegistryStore) (expected : RuntimeApiPersistenceBindingRead) :
    Except RuntimePersistenceFailure RuntimeApiPersistenceBindingRead :=
  match store.snapshots.find? (·.answers expected),
    store.requests.find? (·.runtimeActionResolutionRequestId =
      expected.registry.runtimeActionResolutionRequestId),
    store.decisions.find? (·.runtimeActionResolutionDecisionId =
      expected.registry.runtimeActionResolutionDecisionId),
    store.admissions.find? (·.runtimeAdmissionDecisionId = expected.admission.recordId) with
  | some snapshotRow, some requestRow, some decisionRow, some admissionRow =>
    store.compareExact expected snapshotRow requestRow decisionRow admissionRow
  | _, _, _, _ => .error (.notFound "exact Registry persistence binding is unavailable")

end RuntimeRegistryStore

end PolicyOS.Runtime
