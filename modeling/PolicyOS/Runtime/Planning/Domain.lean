import PolicyOS.Domain.Primitives

/-!
# Execution plans

The plan a governed execution is bound to. Only the facts that other contracts
compare with a plan are kept: its identity and scope, its status, and the
identities of its steps and of its validation records.
-/

namespace PolicyOS.Runtime

/-- Where a plan is in its own life. -/
inductive ExecutionPlanStatus
  | draft | recorded | validated | unavailable | cancelled | invalidated
  deriving DecidableEq, Repr

/-- What a validation record says of the plan. -/
inductive ExecutionPlanValidationStatus
  | valid | invalid | unavailable | invalidated
  deriving DecidableEq, Repr

/-- One step of a plan. -/
structure ExecutionPlanStep where
  executionPlanStepId : UUID
  deriving DecidableEq

/-- One recorded validation of a plan. -/
structure ExecutionPlanValidationRecord where
  executionPlanValidationRecordId : UUID
  validationStatus : ExecutionPlanValidationStatus
  deriving DecidableEq

/-- A plan with its steps and validations, under one scope. -/
structure ExecutionPlan where
  executionPlanId : UUID
  planStatus : ExecutionPlanStatus
  runtimeExecutionRequestId : UUID
  steps : List ExecutionPlanStep := []
  validationRecords : List ExecutionPlanValidationRecord := []
  actorId : UUID
  agentInstanceId : Option UUID := none
  onBehalfOfUserId : Option UUID := none
  tenantId : UUID
  organizationId : UUID
  classification : DataClassification
  rootLineageId : UUID
  rootLineageDigestReference : BoundedId
  policyRevision : PositiveInt
  authorizationRevision : Option PositiveInt := none
  registryRevision : Option PositiveInt := none
  validatedPlan : planStatus = .validated →
    ∃ record ∈ validationRecords, record.validationStatus = .valid := by decide
  recordedSteps : planStatus = .recorded ∨ planStatus = .validated → steps ≠ [] := by decide
  deriving DecidableEq

end PolicyOS.Runtime
