import PolicyOS.Runtime.Persistence.RecordRepositories

/-!
# Logical execution results

A logical result has one identity and numbered revisions of it, each of the exact request,
state and audit revisions it was produced with.
-/

namespace PolicyOS.Runtime

/-! ## Tables -/

/-- What all revisions of one logical result share. -/
structure RuntimeLogicalExecutionResultRecord where
  runtimeLogicalExecutionResultId : UUID
  tenantId : UUID
  organizationId : UUID
  classification : DataClassification
  runtimeExecutionRequestId : UUID
  attemptId : UUID
  rootLineageId : UUID
  rootLineageDigestReference : BoundedId
  deriving DecidableEq

/-- The columns of a revision that repeat the result. -/
structure LogicalResultColumns where
  identity : RuntimeLogicalExecutionResultRecord
  resultRevision : Nat
  executionRequestClassification : DataClassification
  executionRequestExpectedRevision : Nat
  executionState : UUID × Nat
  auditTrail : UUID × Nat
  resultReference : BoundedId
  resultDigestReference : BoundedId
  resultPayloadProvenanceReference : BoundedId
  producedAt : DateTime
  deriving DecidableEq

/-- One revision of one logical result. -/
structure RuntimeLogicalExecutionResultRevisionRecord where
  columns : LogicalResultColumns
  resultPayload : RuntimeApiLogicalExecutionResult
  storedAt : DateTime
  deriving DecidableEq

/-- The tables of logical results. -/
structure RuntimeLogicalResultStore where
  results : List RuntimeLogicalExecutionResultRecord := []
  revisions : List RuntimeLogicalExecutionResultRevisionRecord := []
  deriving DecidableEq

/-!
# Persistence in the active transaction

The tables one operation of the API reads and writes.
-/

/-- The tables an operation of the API reads and writes. -/
structure RuntimeApiStore where
  registry : RuntimeRegistryStore := {}
  records : RuntimeRecordStore := {}
  effects : RuntimeEffectStore := {}
  results : RuntimeLogicalResultStore := {}
  deriving DecidableEq

namespace RuntimeApiStore

/-- Read the binding an operation expects. -/
def readExact (store : RuntimeApiStore) (expected : RuntimeApiPersistenceBindingRead) :
    Except RuntimePersistenceFailure RuntimeApiPersistenceBindingRead :=
  store.registry.readExact expected

end RuntimeApiStore

end PolicyOS.Runtime
