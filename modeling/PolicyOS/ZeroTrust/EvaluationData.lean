import PolicyOS.Evaluation.Runs
import PolicyOS.ZeroTrust.LineageChain

/-!
# Access to evaluation data

A request for evaluation data is decided by policy facts, a permit is issued for what was allowed,
and a binding ties an access to a run. Of the two kinds of protected data the policy refuses the
expected outputs to an evaluated model and the hidden labels to a production agent; a binding
names the evaluated agent itself, and a decision names only the request.
-/

namespace PolicyOS.ZeroTrust

open Foundation
open Evaluation (ExecutionTier EvaluationRunRecord)

/-! ## Decisions -/

/-- The kinds of evaluation data. -/
inductive EvaluationDataType
  | evaluationInput | evaluationReference | hiddenLabel | expectedOutput | benchmarkMetadata
  | evaluationResult
  deriving DecidableEq

/-- The data an evaluated agent must not see. -/
def EvaluationDataType.isProtected (dataType : EvaluationDataType) : Prop :=
  dataType = .hiddenLabel ∨ dataType = .expectedOutput

instance (dataType : EvaluationDataType) : Decidable dataType.isProtected :=
  inferInstanceAs (Decidable (_ ∨ _))

inductive EvaluationDataAccessOutcome
  | allow | deny
  deriving DecidableEq

/-- The reasons of a decision, in the order of their values. -/
inductive EvaluationDataAccessReason
  | allowedByPolicy | classificationDenied | evaluatedModelExpectedOutputDenied
  | explicitAuthorizationRequired | offlineTierRequired | productionAgentHiddenLabelDenied
  | tenantMismatch
  deriving DecidableEq

inductive QuarantineTriggerType
  | evaluationDataAccessAttempt
  deriving DecidableEq

/-- What is asked for, and by whom. -/
structure EvaluationDataAccessContext where
  evaluationAccessRequestId : UUID
  tenantId : UUID
  organizationId : UUID
  onBehalfOfUserId : UUID
  serviceActorId : UUID
  agentInstanceId : UUID
  taskId : UUID
  evaluationResourceId : String
  dataType : EvaluationDataType
  classification : DataClassification
  executionTier : ExecutionTier
  productionAgent : Bool
  evaluatedModel : Bool
  deriving DecidableEq

/-- What the policy allows. -/
structure EvaluationDataPolicyFacts where
  authorizedTenantId : UUID
  allowedClassifications : List DataClassification
  explicitDataTypeAuthorizations : List EvaluationDataType
  deriving DecidableEq

structure EvaluationDataAccessDecision where
  evaluationAccessDecisionId : UUID
  evaluationAccessRequestId : UUID
  outcome : EvaluationDataAccessOutcome
  reasonCodes : List EvaluationDataAccessReason
  quarantineTrigger : Option QuarantineTriggerType
  decidedAt : DateTime
  deriving DecidableEq

/-- The reasons against a request, in the order of their values. -/
def evaluationDenialReasons (context : EvaluationDataAccessContext) (facts : EvaluationDataPolicyFacts) :
    List EvaluationDataAccessReason :=
  (if context.classification ∉ facts.allowedClassifications then [.classificationDenied]
    else []) ++
  (if context.evaluatedModel = true ∧ context.dataType = .expectedOutput then
    [.evaluatedModelExpectedOutputDenied] else []) ++
  (if context.dataType ∉ facts.explicitDataTypeAuthorizations then
    [.explicitAuthorizationRequired] else []) ++
  (if context.executionTier ≠ .offlineEvaluation then [.offlineTierRequired] else []) ++
  (if context.productionAgent = true ∧ context.dataType = .hiddenLabel then
    [.productionAgentHiddenLabelDenied] else []) ++
  (if context.tenantId ≠ facts.authorizedTenantId then [.tenantMismatch] else [])

/-- Decide a request. -/
def evaluateEvaluationDataAccess (context : EvaluationDataAccessContext)
    (facts : EvaluationDataPolicyFacts) (evaluationAccessDecisionId : UUID)
    (decidedAt : DateTime) : EvaluationDataAccessDecision where
  evaluationAccessDecisionId := evaluationAccessDecisionId
  evaluationAccessRequestId := context.evaluationAccessRequestId
  outcome := if evaluationDenialReasons context facts = [] then .allow else .deny
  reasonCodes :=
    if evaluationDenialReasons context facts = [] then [.allowedByPolicy] else evaluationDenialReasons context facts
  quarantineTrigger :=
    if evaluationDenialReasons context facts ≠ [] ∧ context.dataType.isProtected then
      some .evaluationDataAccessAttempt
    else none
  decidedAt := decidedAt

/-! ## Permits -/

/-- What the contracts of an access raise. -/
inductive EvaluationAccessError
  | dataAccess (message : String)
  | authorizationBinding (message : String)
  | lineage (error : LineageError)
  deriving DecidableEq

structure AuthorizedEvaluationDataAccessPermit where
  evaluationDataPermitId : UUID
  evaluationAccessRequestId : UUID
  evaluationAccessDecisionId : UUID
  tenantId : UUID
  organizationId : UUID
  agentInstanceId : UUID
  taskId : UUID
  evaluationResourceId : String
  dataType : EvaluationDataType
  classification : DataClassification
  issuedAt : DateTime
  expiresAt : Option DateTime
  productionResourceAccessAllowed : Bool
  deriving DecidableEq

/-- Issue a permit for a request that was allowed. -/
def issueEvaluationDataPermit (context : EvaluationDataAccessContext)
    (decision : EvaluationDataAccessDecision) (evaluationDataPermitId : UUID)
    (issuedAt : DateTime) (expiresAt : Option DateTime) :
    Except EvaluationAccessError AuthorizedEvaluationDataAccessPermit := do
  rejectIf (decision.outcome ≠ .allow ∨
      decision.evaluationAccessRequestId ≠ context.evaluationAccessRequestId)
    (.dataAccess "evaluation data access was not authorized")
  rejectIf (∃ expiry ∈ expiresAt, expiry ≤ issuedAt)
    (.dataAccess "evaluation permit expiry must follow issuance")
  pure
    { evaluationDataPermitId := evaluationDataPermitId
      evaluationAccessRequestId := context.evaluationAccessRequestId
      evaluationAccessDecisionId := decision.evaluationAccessDecisionId
      tenantId := context.tenantId
      organizationId := context.organizationId
      agentInstanceId := context.agentInstanceId
      taskId := context.taskId
      evaluationResourceId := context.evaluationResourceId
      dataType := context.dataType
      classification := context.classification
      issuedAt := issuedAt
      expiresAt := expiresAt
      productionResourceAccessAllowed := false }

/-! ## Bindings -/

/-- What ties an access to a run. The binding says itself which agent is evaluated. -/
structure EvaluationDataAuthorizationBindingFields where
  evaluationRunId : UUID
  evaluationDataAccessContextId : UUID
  evaluationDataAccessDecisionId : UUID
  actorId : UUID
  agentInstanceId : Option UUID := none
  dataType : EvaluationDataType
  referenceId : UUID
  tenantId : UUID
  organizationId : UUID
  executionTier : ExecutionTier
  delegationLineageId : UUID
  delegationLineageDigest : String
  evaluatedAgentInstanceId : UUID
  policyRevision : String
  deriving DecidableEq

/-- The boundary of an access. -/
def EvaluationDataAuthorizationBindingFields.accessBoundary
    (fields : EvaluationDataAuthorizationBindingFields) : Except EvaluationAccessError Unit := do
  rejectIf (fields.executionTier ≠ .offlineEvaluation)
    (.authorizationBinding "evaluation access requires offline tier")
  rejectIf (fields.dataType.isProtected ∧
      fields.agentInstanceId = some fields.evaluatedAgentInstanceId)
    (.authorizationBinding "evaluated agent cannot bind protected evaluation data")

/-- A validated binding. -/
structure EvaluationDataAuthorizationBinding extends EvaluationDataAuthorizationBindingFields where
  bounded : toEvaluationDataAuthorizationBindingFields.accessBoundary = .ok () := by decide

section Access

variable {sha256 : CanonicalLineage → String}

/-- The binding repeats the request, the evaluator, the run and the lineage. -/
def EvaluationDataAuthorizationBindingFields.repeats
    (binding : EvaluationDataAuthorizationBindingFields) (context : EvaluationDataAccessContext)
    (evaluatorActorId : UUID) (evaluatorAgentInstanceId : Option UUID)
    (expectedEvaluationRunId : UUID) (lineage : DelegationLineageRecord sha256)
    (expectedPolicyRevision : String) : Prop :=
  binding.evaluationDataAccessContextId = context.evaluationAccessRequestId ∧
  binding.evaluationRunId = expectedEvaluationRunId ∧
  binding.actorId = evaluatorActorId ∧
  binding.agentInstanceId = evaluatorAgentInstanceId ∧
  binding.tenantId = context.tenantId ∧
  binding.organizationId = context.organizationId ∧
  binding.dataType = context.dataType ∧
  uuidText binding.referenceId = context.evaluationResourceId ∧
  binding.executionTier = context.executionTier ∧
  binding.delegationLineageId = lineage.lineageId ∧
  binding.delegationLineageDigest = lineage.digest.digestValue ∧
  binding.policyRevision = expectedPolicyRevision

instance EvaluationDataAuthorizationBindingFields.decidableRepeats
    (binding : EvaluationDataAuthorizationBindingFields) (context : EvaluationDataAccessContext) (actor : UUID) (agent : Option UUID) (run : UUID)
    (lineage : DelegationLineageRecord sha256) (revision : String) :
    Decidable (binding.repeats context actor agent run lineage revision) :=
  inferInstanceAs (Decidable (_ ∧ _ ∧ _ ∧ _ ∧ _ ∧ _ ∧ _ ∧ _ ∧ _ ∧ _ ∧ _ ∧ _))

/-- An access must repeat an allowed request of the evaluator and its lineage, and must not be of
protected data for the agent the binding says is evaluated. -/
def validateEvaluationArtifactAccess (binding : EvaluationDataAuthorizationBinding)
    (context : EvaluationDataAccessContext) (decision : EvaluationDataAccessDecision)
    (evaluatorActorId : UUID) (evaluatorAgentInstanceId : Option UUID)
    (expectedEvaluationRunId : UUID) (lineage : DelegationLineageRecord sha256)
    (expectedPolicyRevision : String) : Except EvaluationAccessError Unit := do
  (verifyDelegationLineageDigest sha256 lineage.facts lineage.digest).mapError .lineage
  rejectIf (decision.outcome ≠ .allow ∨
      decision.evaluationAccessDecisionId ≠ binding.evaluationDataAccessDecisionId ∨
      decision.evaluationAccessRequestId ≠ context.evaluationAccessRequestId)
    (.authorizationBinding "evaluation data access was denied")
  rejectIf (¬ binding.repeats context evaluatorActorId evaluatorAgentInstanceId
      expectedEvaluationRunId lineage expectedPolicyRevision)
    (.authorizationBinding "evaluation data authorization mismatch")
  rejectIf (some context.agentInstanceId ≠ evaluatorAgentInstanceId)
    (.authorizationBinding "evaluator agent context mismatch")
  rejectIf (context.serviceActorId ≠ evaluatorActorId)
    (.authorizationBinding "evaluator actor context mismatch")
  rejectIf (context.tenantId ≠ lineage.facts.tenantId ∨
      context.organizationId ≠ lineage.facts.organizationId ∨
      context.onBehalfOfUserId ≠ lineage.facts.onBehalfOfUserId ∨
      context.taskId ≠ lineage.facts.taskId)
    (.authorizationBinding "evaluation access lineage context mismatch")
  rejectIf (binding.dataType.isProtected ∧ (context.evaluatedModel = true ∨
      binding.agentInstanceId = some binding.evaluatedAgentInstanceId))
    (.authorizationBinding "evaluated agent cannot access protected data")

end Access

/-! ## Protection -/

/-- No permit for protected data is issued to an evaluated model by the decision of the policy. -/
def WithholdsProtected (context : EvaluationDataAccessContext)
    (facts : EvaluationDataPolicyFacts) : Prop :=
  context.evaluatedModel = true → context.dataType.isProtected →
    ∀ decisionId decidedAt permitId issuedAt expiresAt permit,
      issueEvaluationDataPermit context
        (evaluateEvaluationDataAccess context facts decisionId decidedAt) permitId issuedAt
        expiresAt ≠ .ok permit

/-- An evaluated model that asks for hidden labels is refused for another reason. -/
def HiddenLabelsRefused (context : EvaluationDataAccessContext)
    (facts : EvaluationDataPolicyFacts) : Prop :=
  context.evaluatedModel = true → context.dataType = .hiddenLabel →
    context.productionAgent = true ∨ context.executionTier ≠ .offlineEvaluation ∨
      context.tenantId ≠ facts.authorizedTenantId ∨
      context.classification ∉ facts.allowedClassifications ∨
      .hiddenLabel ∉ facts.explicitDataTypeAuthorizations

/-- The accessing agent is not the one a run evaluates, and the request that was decided is of the
data the binding names. -/
structure ProtectsRun (binding : EvaluationDataAuthorizationBinding) (run : EvaluationRunRecord)
    (request : EvaluationDataAccessContext) : Prop where
  agent : binding.agentInstanceId ≠ some run.evaluatedAgentInstanceId
  dataType : request.dataType = binding.dataType
  resource : request.evaluationResourceId = uuidText binding.referenceId
  tenant : request.tenantId = binding.tenantId

/-- A binding of the agent a run evaluates says so, and the request that was decided is of the
data, resource and tenant of the request that is presented. -/
structure PresentsFacts (binding : EvaluationDataAuthorizationBinding) (run : EvaluationRunRecord)
    (request context : EvaluationDataAccessContext) : Prop where
  agent : binding.agentInstanceId = some run.evaluatedAgentInstanceId →
    binding.evaluatedAgentInstanceId = run.evaluatedAgentInstanceId
  dataType : request.dataType = context.dataType
  resource : request.evaluationResourceId = context.evaluationResourceId
  tenant : request.tenantId = context.tenantId

/-- A permit can be issued exactly if nothing speaks against the request. -/
theorem exists_permit_iff {context : EvaluationDataAccessContext}
    {facts : EvaluationDataPolicyFacts} :
    (∃ decisionId decidedAt permitId issuedAt expiresAt permit,
      issueEvaluationDataPermit context
        (evaluateEvaluationDataAccess context facts decisionId decidedAt) permitId issuedAt
        expiresAt = .ok permit) ↔ evaluationDenialReasons context facts = [] := by
  have allowed : ∀ decisionId decidedAt,
      (evaluateEvaluationDataAccess context facts decisionId decidedAt).outcome = .allow ↔
        evaluationDenialReasons context facts = [] := by
    intro decisionId decidedAt
    by_cases none : evaluationDenialReasons context facts = [] <;>
      simp [evaluateEvaluationDataAccess, none]
  constructor
  · rintro ⟨decisionId, decidedAt, permitId, issuedAt, expiresAt, permit, issued⟩
    simp only [issueEvaluationDataPermit, bind_eq_ok_iff, exists_unit_iff, rejectIf_eq_ok_iff,
      not_or, not_not, ne_eq] at issued
    exact (allowed decisionId decidedAt).mp issued.1.1
  · intro none
    refine ⟨0, 0, 0, 0, Option.none, ?_⟩
    simp only [issueEvaluationDataPermit, bind_eq_ok_iff, exists_unit_iff, rejectIf_eq_ok_iff,
      not_or, not_not, ne_eq, pure_eq_ok_iff]
    exact ⟨_, ⟨(allowed 0 0).mpr none, rfl⟩, by simp, rfl⟩

theorem withholdsProtected_iff {context : EvaluationDataAccessContext}
    {facts : EvaluationDataPolicyFacts} :
    WithholdsProtected context facts ↔ HiddenLabelsRefused context facts := by
  have withheld : WithholdsProtected context facts ↔ (context.evaluatedModel = true →
      context.dataType.isProtected → evaluationDenialReasons context facts ≠ []) := by
    rw [ne_eq, ← exists_permit_iff]
    simp only [WithholdsProtected, not_exists, ne_eq]
  rw [withheld]
  simp only [HiddenLabelsRefused, evaluationDenialReasons, EvaluationDataType.isProtected]
  by_cases evaluated : context.evaluatedModel = true
  · cases context.productionAgent <;> cases context.dataType <;> simp [evaluated] <;> tauto
  · simp [evaluated]

/-- An evaluated model is refused protected data exactly if hidden labels are refused for another
reason; and an accepted access of protected data protects its run exactly if the binding and the
request present the facts of the run and of the decision. -/
theorem protectedData_iff (sha256 : CanonicalLineage → String)
    (context : EvaluationDataAccessContext) (facts : EvaluationDataPolicyFacts) :
    (WithholdsProtected context facts ↔ HiddenLabelsRefused context facts) ∧
    ∀ (binding : EvaluationDataAuthorizationBinding) (decision : EvaluationDataAccessDecision)
      (actorId : UUID) (agentId : Option UUID) (run : EvaluationRunRecord)
      (lineage : DelegationLineageRecord sha256) (policyRevision : String)
      (request : EvaluationDataAccessContext) (requestFacts : EvaluationDataPolicyFacts)
      (decisionId : UUID) (decidedAt : DateTime),
      validateEvaluationArtifactAccess binding context decision actorId agentId
        run.evaluationRunId lineage policyRevision = .ok () →
      binding.dataType.isProtected →
      decision = evaluateEvaluationDataAccess request requestFacts decisionId decidedAt →
        (ProtectsRun binding run request ↔ PresentsFacts binding run request context) := by
  refine ⟨withholdsProtected_iff, ?_⟩
  rintro binding decision actorId agentId run lineage revision request requestFacts decisionId
    decidedAt accepted isProtected -
  simp only [validateEvaluationArtifactAccess, bind_eq_ok_iff, exists_unit_iff, rejectIf_eq_ok_iff,
    not_not, not_and, not_or] at accepted
  obtain ⟨-, -, repeats, -, -, -, guarded⟩ := accepted
  obtain ⟨-, notEvaluated⟩ := guarded isProtected
  obtain ⟨-, -, -, -, tenant, -, dataType, resource, -⟩ := repeats
  constructor
  · rintro ⟨agent, sameType, sameResource, sameTenant⟩
    exact ⟨fun same => absurd same agent, sameType.trans dataType, sameResource.trans resource,
      sameTenant.trans tenant⟩
  · rintro ⟨agent, sameType, sameResource, sameTenant⟩
    refine ⟨fun same => notEvaluated ?_, sameType.trans dataType.symm,
      sameResource.trans resource.symm, sameTenant.trans tenant.symm⟩
    rw [same, agent same]

namespace AccessSample

/-- The evaluated model asks for hidden labels. -/
def context : EvaluationDataAccessContext where
  evaluationAccessRequestId := 1
  tenantId := 4
  organizationId := 5
  onBehalfOfUserId := 6
  serviceActorId := 7
  agentInstanceId := 5
  taskId := 9
  evaluationResourceId := "00000000-0000-0000-0000-00000000000d"
  dataType := .hiddenLabel
  classification := .internal
  executionTier := .offlineEvaluation
  productionAgent := false
  evaluatedModel := true

/-- A policy that authorizes hidden labels in its tenant. -/
def facts : EvaluationDataPolicyFacts := ⟨4, [.internal], [.hiddenLabel]⟩

/-- An evaluator of its own asks for them. -/
def evaluatorContext : EvaluationDataAccessContext :=
  { context with agentInstanceId := 12, evaluatedModel := false }

/-- The evaluator's binding to the run that evaluates agent 5. -/
def binding : EvaluationDataAuthorizationBinding where
  evaluationRunId := 1
  evaluationDataAccessContextId := 1
  evaluationDataAccessDecisionId := 2
  actorId := 7
  agentInstanceId := some 12
  dataType := .hiddenLabel
  referenceId := 13
  tenantId := 4
  organizationId := 5
  executionTier := .offlineEvaluation
  delegationLineageId := 1
  delegationLineageDigest := Sample.rootRecord.digest.digestValue
  evaluatedAgentInstanceId := 5
  policyRevision := "1"

end AccessSample

open AccessSample in
/-- The evaluator's access protects the run. -/
theorem protectedData_iff_evaluator :
    ProtectsRun binding Evaluation.InvalidationSample.run evaluatorContext :=
  ((protectedData_iff Sample.lineageSha256 evaluatorContext facts).2 binding
    (evaluateEvaluationDataAccess evaluatorContext facts 2 10) 7 (some 12)
    Evaluation.InvalidationSample.run Sample.rootRecord "1" evaluatorContext facts 2 10 (by decide +kernel) (.inl rfl) rfl).mpr
    ⟨fun _ => rfl, rfl, rfl, rfl⟩

open AccessSample in
/-- A permit for hidden labels is issued to an evaluated model. -/
theorem not_withholdsProtected : ¬ ∀ context facts, WithholdsProtected context facts := by
  intro withholds
  exact withholds context facts rfl (.inl rfl) 2 10 3 10 none _ rfl

end PolicyOS.ZeroTrust
