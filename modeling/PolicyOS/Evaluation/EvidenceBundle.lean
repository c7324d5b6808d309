import Mathlib.Data.List.Dedup
import PolicyOS.Evaluation.ExecutionHistories

/-!
# Evidence bundles

The evidence of one execution of a plan. Every fact of a bundle is compared with the plan or with
the execution record, and the two are given side by side: nothing compares them with each other.
-/

namespace PolicyOS.Evaluation

open Foundation

/-! ## Vocabulary -/

inductive EvaluationEvidenceType
  | inputReference | outputReference | promptReference | modelInvocationReference
  | datasetReference | policyDecisionReference | executionTransitionReference
  | externalArtifactReference
  deriving DecidableEq

inductive EvaluationEvidenceRole
  | evaluationInput | evaluationOutput | executionSupport | authorizationSupport
  | provenanceSupport | reproducibilitySupport | auditSupport
  deriving DecidableEq

/-- The errors of evidence, and those of the checks shared with executions. -/
inductive EvidenceError
  | evaluation (error : EvaluationError)
  | invalidBundle (message : String)
  | reference (message : String)
  | sequence (message : String)
  | duplicate (message : String)
  | auditMetadata (message : String)
  | provenance (message : String)
  | lineage (message : String)
  | lifecycleState (message : String)
  | bindingMismatch (message : String)
  deriving DecidableEq

/-- What evidence reads of its plan besides what an execution reads. -/
structure EvidencePlan extends EvaluationPlan where
  registrySchemaVersion : String
  authorizationDecisionId : UUID
  deriving DecidableEq

/-! ## Bundles -/

/-- One piece of evidence. -/
structure EvaluationEvidenceReference where
  evidenceId : UUID
  evidenceType : EvaluationEvidenceType
  evidenceRole : EvaluationEvidenceRole
  evidenceSchemaVersion : String
  evidenceReference : String
  createdAt : DateTime
  ordinal : Nat
  deriving DecidableEq

/-- What provenance must agree with its plan and its execution on. -/
structure ProvenanceTerms where
  evaluationPlanId : UUID
  evaluationPlanVersion : Option EvaluationPlanVersion
  evaluationExecutionId : UUID
  evaluationRunRequestId : UUID
  evaluationDefinitionId : UUID
  targetReferenceId : UUID
  datasetReferenceId : UUID
  datasetManifestReferenceId : UUID
  datasetSplitReferenceId : UUID
  evaluatorReferenceId : UUID
  evaluationRegistrySnapshotReferenceId : UUID
  registryRevision : Nat
  registrySchemaVersion : String
  evaluationPolicyReferenceId : UUID
  evaluationPolicyRevision : Nat
  authorizationDecisionId : UUID
  authorizationRevision : Nat
  actorId : UUID
  agentInstanceId : Option UUID
  tenantId : UUID
  organizationId : UUID
  executionTier : ExecutionTier
  planningFingerprintReference : Option PlanningFingerprintReference
  deriving DecidableEq

structure EvaluationEvidenceProvenance extends ProvenanceTerms where
  classification : DataClassification
  recordedAt : DateTime
  deriving DecidableEq

/-- What a lineage must agree with its plan and its execution on. -/
structure EvidenceLineageTerms where
  evaluationPlanId : UUID
  evaluationPlanVersion : Option EvaluationPlanVersion
  evaluationExecutionId : UUID
  evaluationRunRequestId : UUID
  delegationLineageId : UUID
  delegationLineageDigest : String
  planningFingerprintReference : Option PlanningFingerprintReference
  deriving DecidableEq

structure EvaluationEvidenceLineage extends EvidenceLineageTerms where
  classification : DataClassification
  executionTransitionReference : Option UUID := none
  deriving DecidableEq

structure EvaluationEvidenceBundleVersion where
  evidenceBundleVersion : String
  evidenceSchemaVersion : String
  deriving DecidableEq

structure EvaluationEvidenceBundleAuditMetadata where
  evidenceBundleId : UUID
  evidenceBundleVersion : String
  evidenceCount : Nat
  evidenceTypeCount : Nat
  evidenceRoleCount : Nat
  evaluationPlanId : UUID
  evaluationExecutionId : UUID
  authorizationRevision : Nat
  policyRevision : Nat
  registryRevision : Nat
  createdAt : DateTime
  deriving DecidableEq

/-- What a bundle is made of. -/
structure EvaluationEvidenceBundleFields where
  evidenceBundleId : UUID
  evidenceBundleVersion : EvaluationEvidenceBundleVersion
  evaluationPlanId : UUID
  evaluationPlanVersion : Option EvaluationPlanVersion
  evaluationExecutionId : UUID
  evaluationRunRequestId : UUID
  classification : DataClassification
  provenance : EvaluationEvidenceProvenance
  lineage : EvaluationEvidenceLineage
  evidenceReferences : List EvaluationEvidenceReference
  auditMetadata : Option EvaluationEvidenceBundleAuditMetadata := none
  createdAt : DateTime
  deriving DecidableEq

/-! ## Structure -/

/-- References must be numbered from one on, distinct, and of the schema of the bundle. -/
def validateEvaluationEvidenceReferences (references : List EvaluationEvidenceReference)
    (expectedSchemaVersion : String) : Except EvidenceError Unit := do
  rejectIf (references = []) (.invalidBundle "evaluation evidence is required")
  rejectIf (references.map (·.ordinal) ≠ List.range' 1 references.length)
    (.sequence "evaluation evidence ordinals must be canonical and contiguous")
  rejectIf (¬ (references.map (·.evidenceId)).Nodup)
    (.duplicate "duplicate evaluation evidence identity")
  rejectIf (¬ (references.map (·.evidenceReference)).Nodup)
    (.duplicate "duplicate evaluation evidence reference")
  checkEach (fun reference => rejectIf (reference.evidenceSchemaVersion ≠ expectedSchemaVersion)
    (.reference "evaluation evidence schema version is unsupported")) references

/-- The audit metadata a bundle must have if it has any. -/
def EvaluationEvidenceBundleFields.expectedAuditMetadata (bundle : EvaluationEvidenceBundleFields) :
    EvaluationEvidenceBundleAuditMetadata where
  evidenceBundleId := bundle.evidenceBundleId
  evidenceBundleVersion := bundle.evidenceBundleVersion.evidenceBundleVersion
  evidenceCount := bundle.evidenceReferences.length
  evidenceTypeCount := (bundle.evidenceReferences.map (·.evidenceType)).dedup.length
  evidenceRoleCount := (bundle.evidenceReferences.map (·.evidenceRole)).dedup.length
  evaluationPlanId := bundle.evaluationPlanId
  evaluationExecutionId := bundle.evaluationExecutionId
  authorizationRevision := bundle.provenance.authorizationRevision
  policyRevision := bundle.provenance.evaluationPolicyRevision
  registryRevision := bundle.provenance.registryRevision
  createdAt := bundle.createdAt

def validateEvaluationEvidenceAuditMetadata (bundle : EvaluationEvidenceBundleFields) :
    Except EvidenceError Unit :=
  rejectIf (∃ audit ∈ bundle.auditMetadata, audit ≠ bundle.expectedAuditMetadata)
    (.auditMetadata "evaluation evidence audit metadata mismatch")

/-- A bundle must not be below its provenance and lineage, nor before its evidence. -/
def EvaluationEvidenceBundleFields.validateStructure (bundle : EvaluationEvidenceBundleFields) :
    Except EvidenceError Unit := do
  (requireClassificationNotLower bundle.classification
    [bundle.provenance.classification, bundle.lineage.classification]
    "evaluation evidence bundle classification").mapError .evaluation
  validateEvaluationEvidenceReferences bundle.evidenceReferences
    bundle.evidenceBundleVersion.evidenceSchemaVersion
  rejectIf (∃ item ∈ bundle.evidenceReferences, bundle.createdAt < item.createdAt)
    (.invalidBundle "evaluation evidence timestamp follows bundle creation")
  rejectIf (bundle.createdAt < bundle.provenance.recordedAt)
    (.provenance "evaluation evidence provenance follows bundle creation")
  validateEvaluationEvidenceAuditMetadata bundle

/-- A bundle of valid structure. -/
structure EvaluationEvidenceBundle extends EvaluationEvidenceBundleFields where
  structurallyValid : toEvaluationEvidenceBundleFields.validateStructure = .ok ()

/-! ## Binding -/

section Binding

variable (plan : EvidencePlan) (record : EvaluationExecutionRecord)

/-- The terms of the provenance of an execution. -/
def provenanceTerms : ProvenanceTerms :=
  { plan with
    evaluationExecutionId := record.evaluationExecutionId
    authorizationRevision := record.executionContext.authorizationRevision
    actorId := record.executionContext.actorId
    agentInstanceId := record.executionContext.agentInstanceId
    executionTier := .offlineEvaluation }

/-- The terms of the lineage of an execution. -/
def evidenceLineageTerms : EvidenceLineageTerms :=
  { plan with
    evaluationExecutionId := record.evaluationExecutionId
    delegationLineageId := record.executionContext.delegationLineageId
    delegationLineageDigest := record.executionContext.delegationLineageDigest }

def validateProvenance (provenance : EvaluationEvidenceProvenance) : Except EvidenceError Unit := do
  (requireClassificationNotLower provenance.classification
    [plan.classification, record.classification, record.executionContext.classification]
    "evaluation evidence provenance classification").mapError .evaluation
  rejectIf (provenance.toProvenanceTerms ≠ provenanceTerms plan record)
    (.provenance "evaluation evidence provenance mismatch")

/-- A lineage that names a transition names one of the record, not after the evidence. -/
def validateEvidenceLineage (bundle : EvaluationEvidenceBundleFields) :
    Except EvidenceError Unit := do
  (requireClassificationNotLower bundle.lineage.classification
    [plan.classification, record.classification]
    "evaluation evidence lineage classification").mapError .evaluation
  rejectIf (bundle.lineage.toEvidenceLineageTerms ≠ evidenceLineageTerms plan record)
    (.lineage "evaluation evidence lineage mismatch")
  match bundle.lineage.executionTransitionReference with
  | none => pure ()
  | some reference =>
      match record.transitions.find? (·.transitionId = reference) with
      | none => throw (.lineage "evaluation evidence transition reference is unknown")
      | some transition =>
          rejectIf (∃ item ∈ bundle.evidenceReferences, item.createdAt < transition.transitionedAt)
            (.lineage "transition-linked evaluation evidence predates transition")

/-- The states evidence may be bundled in. -/
def EvaluationExecutionState.evidential : EvaluationExecutionState → Bool
  | .inProgress | .completed | .failed | .cancelled => true
  | _ => false

/-- A bundle must be of the plan and of the execution. -/
def validateEvaluationEvidenceBundle (bundle : EvaluationEvidenceBundleFields) :
    Except EvidenceError Unit := do
  (requireClassificationNotLower bundle.classification
    [plan.classification, record.classification, bundle.provenance.classification,
      bundle.lineage.classification]
    "evaluation evidence bundle classification").mapError .evaluation
  bundle.validateStructure
  rejectIf (record.currentState.evidential = false)
    (.lifecycleState "evaluation execution state is not eligible for evidence")
  rejectIf (bundle.createdAt < record.createdAt)
    (.invalidBundle "evaluation evidence bundle predates execution record")
  rejectIf (bundle.evaluationPlanId ≠ plan.evaluationPlanId ∨
      bundle.evaluationPlanVersion ≠ plan.evaluationPlanVersion ∨
      bundle.evaluationExecutionId ≠ record.evaluationExecutionId ∨
      bundle.evaluationRunRequestId ≠ plan.evaluationRunRequestId)
    (.bindingMismatch "evaluation evidence bundle binding mismatch")
  validateProvenance plan record bundle.provenance
  validateEvidenceLineage plan record bundle
  validateEvaluationEvidenceAuditMetadata bundle

end Binding

/-- What a bundle is asked to be made of. -/
structure EvaluationEvidenceBundleRequest where
  evaluationPlan : EvidencePlan
  evaluationExecutionRecord : EvaluationExecutionRecord
  evidenceBundleId : UUID
  evidenceBundleVersion : EvaluationEvidenceBundleVersion
  provenance : EvaluationEvidenceProvenance
  lineage : EvaluationEvidenceLineage
  evidenceReferences : List EvaluationEvidenceReference
  auditMetadata : Option EvaluationEvidenceBundleAuditMetadata := none
  createdAt : DateTime

/-- The fields of the bundle that is asked for. -/
def EvaluationEvidenceBundleRequest.values (request : EvaluationEvidenceBundleRequest) :
    EvaluationEvidenceBundleFields :=
  { request with
    evaluationPlanId := request.evaluationPlan.evaluationPlanId
    evaluationPlanVersion := request.evaluationPlan.evaluationPlanVersion
    evaluationExecutionId := request.evaluationExecutionRecord.evaluationExecutionId
    evaluationRunRequestId := request.evaluationPlan.evaluationRunRequestId
    classification := request.provenance.classification }

/-- Build the bundle. Its structure is checked once more when it is bound. -/
def buildEvaluationEvidenceBundle (request : EvaluationEvidenceBundleRequest) :
    Except EvidenceError EvaluationEvidenceBundle := do
  let bundle ← buildChecked request.values.validateStructure fun valid =>
    (⟨request.values, valid⟩ : EvaluationEvidenceBundle)
  validateEvaluationEvidenceBundle request.evaluationPlan request.evaluationExecutionRecord
    bundle.toEvaluationEvidenceBundleFields
  pure bundle

/-! ## Bundles of an execution -/

/-- The record is of an execution of the plan. -/
def EvaluationExecutionRecord.isOf (record : EvaluationExecutionRecord) (plan : EvaluationPlan) :
    Prop :=
  record.evaluationPlanId = plan.evaluationPlanId ∧
  record.evaluationPlanVersion = plan.evaluationPlanVersion ∧
  record.evaluationRunRequestId = plan.evaluationRunRequestId

/-- A bundle names an execution of its plan throughout, nothing in it is dated after it, and it is
not below anything it is made of. -/
structure BundlesExecution (plan : EvidencePlan) (record : EvaluationExecutionRecord)
    (bundle : EvaluationEvidenceBundle) : Prop where
  execution : record.isOf plan.toEvaluationPlan
  plans : [bundle.evaluationPlanId, bundle.provenance.evaluationPlanId,
    bundle.lineage.evaluationPlanId].all (· = plan.evaluationPlanId)
  versions : [bundle.evaluationPlanVersion, bundle.provenance.evaluationPlanVersion,
    bundle.lineage.evaluationPlanVersion].all (· = plan.evaluationPlanVersion)
  executions : [bundle.evaluationExecutionId, bundle.provenance.evaluationExecutionId,
    bundle.lineage.evaluationExecutionId].all (· = record.evaluationExecutionId)
  requests : [bundle.evaluationRunRequestId, bundle.provenance.evaluationRunRequestId,
    bundle.lineage.evaluationRunRequestId].all (· = plan.evaluationRunRequestId)
  evidence : ∀ item ∈ bundle.evidenceReferences, item.createdAt ≤ bundle.createdAt
  recorded : bundle.provenance.recordedAt ≤ bundle.createdAt
  transitioned : ∀ transition ∈ record.transitions,
    bundle.lineage.executionTransitionReference = some transition.transitionId →
      transition.transitionedAt ≤ bundle.createdAt
  notLowered : ∀ classification ∈ [plan.classification, record.classification,
    bundle.provenance.classification, bundle.lineage.classification],
    notLower bundle.classification classification

/-- The transitions that were read have identifiers of their own. -/
def IdsRead (transitions : List EvaluationExecutionTransition) (progress : HistoryProgress) :
    Prop :=
  progress.transitionIds = transitions.map (·.transitionId) ∧ progress.transitionIds.Nodup

theorem IdsRead.past {executionId planId : UUID} {progress : HistoryProgress}
    {transitions : List EvaluationExecutionTransition} {transition : EvaluationExecutionTransition}
    (ids : IdsRead transitions progress)
    (follows : FollowsHistory executionId planId progress transition) :
    IdsRead (transitions ++ [transition]) (progress.past transition) := by
  refine ⟨by simp [HistoryProgress.past, ids.1], ?_⟩
  exact List.Nodup.append ids.2 (List.nodup_singleton _) fun id isOld isNew =>
    follows.fresh (List.mem_singleton.mp isNew ▸ isOld)

/-- No two transitions of a record have one identifier. -/
theorem EvaluationExecutionRecord.distinct_transitions (record : EvaluationExecutionRecord) :
    (record.transitions.map (·.transitionId)).Nodup := by
  have empty : IdsRead [] (.start record.createdAt) := ⟨rfl, .nil⟩
  have read := Replayed.holds_throughout empty IdsRead.past
    (validateHistory_eq_ok_iff.mp record.consistent.history)
  exact read.1 ▸ read.2

/-- A transition that a lineage names is not after the evidence. -/
theorem transitioned_of_validateEvidenceLineage {plan : EvidencePlan}
    {record : EvaluationExecutionRecord} {bundle : EvaluationEvidenceBundleFields}
    (accepted : validateEvidenceLineage plan record bundle = .ok ())
    {transition : EvaluationExecutionTransition} (isOf : transition ∈ record.transitions)
    (named : bundle.lineage.executionTransitionReference = some transition.transitionId) :
    ∀ item ∈ bundle.evidenceReferences, transition.transitionedAt ≤ item.createdAt := by
  simp only [validateEvidenceLineage, bind_eq_ok_iff, exists_unit_iff, named] at accepted
  obtain ⟨-, -, linked⟩ := accepted
  cases found : record.transitions.find? (·.transitionId = transition.transitionId) with
  | none =>
      have absent := List.find?_eq_none.mp found transition isOf
      simp at absent
  | some other =>
      have same : other.transitionId = transition.transitionId := by
        simpa using List.find?_some found
      obtain rfl := List.inj_on_of_nodup_map record.distinct_transitions
        (List.mem_of_find?_eq_some found) isOf same
      simp only [found, rejectIf_eq_ok_iff, not_exists, not_and, not_lt] at linked
      exact linked

/-- A bundle that is built is one of an execution of its plan exactly if the record it was built
with is of an execution of the plan. -/
theorem bundlesExecution_iff (request : EvaluationEvidenceBundleRequest)
    (bundle : EvaluationEvidenceBundle)
    (built : buildEvaluationEvidenceBundle request = .ok bundle) :
    BundlesExecution request.evaluationPlan request.evaluationExecutionRecord bundle ↔
      request.evaluationExecutionRecord.isOf request.evaluationPlan.toEvaluationPlan := by
  refine ⟨BundlesExecution.execution, fun execution => ?_⟩
  simp only [buildEvaluationEvidenceBundle, bind_eq_ok_iff, buildChecked_eq_ok_iff, exists_unit_iff,
    pure_eq_ok_iff] at built
  obtain ⟨_, ⟨_, rfl⟩, accepted, rfl⟩ := built
  simp only [validateEvaluationEvidenceBundle, EvaluationEvidenceBundleFields.validateStructure,
    validateEvaluationEvidenceReferences, bind_eq_ok_iff, exists_unit_iff, rejectIf_eq_ok_iff,
    mapError_eq_ok_iff, requireClassificationNotLower_eq_ok_iff, not_or, not_not, not_lt,
    not_exists, not_and, ne_eq] at accepted
  obtain ⟨⟨-, notLowered⟩, ⟨-, ⟨some, -⟩, evidence, recorded, -⟩, -, -,
    ⟨planId, version, executionId, requestId⟩, provenance, lineage, -⟩ := accepted
  have linked := @transitioned_of_validateEvidenceLineage _ _ _ lineage
  simp only [validateProvenance, validateEvidenceLineage, bind_eq_ok_iff, exists_unit_iff,
    rejectIf_eq_ok_iff, not_not, ne_eq] at provenance lineage
  constructor
  case execution => exact execution
  case evidence => exact evidence
  case recorded => exact recorded
  case notLowered => exact notLowered
  case transitioned =>
    intro transition isOf named
    obtain ⟨item, isItem⟩ := List.exists_mem_of_ne_nil _ some
    exact (linked isOf named item isItem).trans (evidence item isItem)
  all_goals
    simp [planId, version, executionId, requestId, provenance.2, lineage.2.1, provenanceTerms,
      evidenceLineageTerms]

namespace ExecutionSample

/-- One transition of the execution. -/
def stepTo (transitionId : UUID) (sequenceNumber : Nat) (fromState toState : EvaluationExecutionState)
    (valid : (⟨transitionId, 20, 1, fromState, toState, sequenceNumber, 100 + sequenceNumber,
      binding fromState toState, none, none, none⟩ :
        EvaluationExecutionTransitionFields).validate = .ok ()) :
    EvaluationExecutionTransition :=
  ⟨⟨transitionId, 20, 1, fromState, toState, sequenceNumber, 100 + sequenceNumber,
    binding fromState toState, none, none, none⟩, valid⟩

/-- The record of the execution when it is completed. -/
def completed : EvaluationExecutionRecord where
  evaluationExecutionId := 20
  evaluationPlanId := 1
  evaluationRunRequestId := 2
  classification := .public
  initialState := .planned
  currentState := .completed
  executionContext := context
  transitions :=
    [stepTo 40 1 .planned .validated (by decide), stepTo 41 2 .validated .ready (by decide),
      stepTo 42 3 .ready .inProgress (by decide), stepTo 43 4 .inProgress .completed (by decide)]
  createdAt := 100
  updatedAt := 104
  internallyConsistent := by decide

/-- What evidence reads of a plan. -/
def evidencePlan (plan : EvaluationPlan) : EvidencePlan :=
  { plan with
    registrySchemaVersion := "registry"
    authorizationDecisionId := 30 }

/-- The evidence of the completed execution, under a plan. -/
def evidenceRequest (plan : EvaluationPlan) : EvaluationEvidenceBundleRequest where
  evaluationPlan := evidencePlan plan
  evaluationExecutionRecord := completed
  evidenceBundleId := 50
  evidenceBundleVersion := ⟨"1", "1"⟩
  provenance :=
    { provenanceTerms (evidencePlan plan) completed with
      classification := .public
      recordedAt := 110 }
  lineage :=
    { evidenceLineageTerms (evidencePlan plan) completed with
      classification := .public
      executionTransitionReference := some 43 }
  evidenceReferences := [⟨51, .outputReference, .evaluationOutput, "1", "output", 110, 1⟩]
  createdAt := 120

/-- Another plan. -/
def otherPlan : EvaluationPlan := { plan with evaluationPlanId := 60 }

theorem plan_bundled :
    (buildEvaluationEvidenceBundle (evidenceRequest plan)).toOption.isSome = true := by
  decide +kernel

theorem otherPlan_bundled :
    (buildEvaluationEvidenceBundle (evidenceRequest otherPlan)).toOption.isSome = true := by
  decide +kernel

end ExecutionSample

open ExecutionSample in
/-- The completed execution is bundled with its plan. -/
theorem bundlesExecution_completed :
    BundlesExecution (evidencePlan plan) completed (givenValue _ plan_bundled) :=
  (bundlesExecution_iff (evidenceRequest plan) _ (eq_ok_givenValue plan_bundled)).mpr
    ⟨rfl, rfl, rfl⟩

open ExecutionSample in
/-- The completed execution is bundled with another plan as well. -/
theorem not_bundlesExecution : ¬ ∀ request bundle,
    buildEvaluationEvidenceBundle request = .ok bundle →
      BundlesExecution request.evaluationPlan request.evaluationExecutionRecord bundle := by
  intro bundles
  have bundle := bundles (evidenceRequest otherPlan) _ (eq_ok_givenValue otherPlan_bundled)
  exact absurd bundle.execution.1 (by decide)

end PolicyOS.Evaluation
