import PolicyOS.Evaluation.EvidenceBundle

/-!
# Pipelines

The validation report of an evidence bundle, and the pipeline that binds plan, execution, bundle
and report. A report that is built has the one status each rule must have; a report that is given
only has to be consistent with itself, and passes unless one of its findings failed.
-/

namespace PolicyOS.Evaluation

open Foundation

/-! ## Vocabulary -/

inductive EvaluationEvidenceValidationRule
  | canonicalOrder | uniqueReference | planBinding | executionBinding | provenanceBinding
  | lineageBinding | authorizationBinding | policyBinding | datasetBinding | registryBinding
  | schemaVersion | auditMetadata | lifecycleEligibility
  deriving DecidableEq

/-- All of them, in the order of the source. -/
def validationRules : List EvaluationEvidenceValidationRule :=
  [.canonicalOrder, .uniqueReference, .planBinding, .executionBinding, .provenanceBinding,
    .lineageBinding, .authorizationBinding, .policyBinding, .datasetBinding, .registryBinding,
    .schemaVersion, .auditMetadata, .lifecycleEligibility]

inductive EvaluationEvidenceValidationCategory
  | structural | binding | governance | compatibility | lifecycle
  deriving DecidableEq

inductive EvaluationEvidenceValidationStatus
  | passed | failed | skipped | notApplicable
  deriving DecidableEq

inductive EvaluationPipelineStage
  | planning | execution | evidence | validation | completed
  deriving DecidableEq

inductive EvaluationPipelineState
  | assembled | active | completed | failed | cancelled
  deriving DecidableEq

/-- The exception classes of validation and pipelines. -/
inductive PipelineErrorKind
  | duplicateFinding | finding | report | summary | planBinding | planAuthorization
  | version | componentSequence | duplicateComponent | bindingMismatch | authorizationBinding
  | timestamp | state | auditMetadata
  deriving DecidableEq

/-- Their errors, and those of the contracts they check again. -/
inductive PipelineError
  | evaluation (error : EvaluationError)
  | evidence (error : EvidenceError)
  | raised (kind : PipelineErrorKind) (message : String)
  deriving DecidableEq

/-! ## Reports -/

structure EvaluationEvidenceValidationFinding where
  findingId : UUID
  rule : EvaluationEvidenceValidationRule
  category : EvaluationEvidenceValidationCategory
  status : EvaluationEvidenceValidationStatus
  createdAt : DateTime
  deriving DecidableEq

structure EvaluationEvidenceValidationSummary where
  passedCount : Nat
  failedCount : Nat
  skippedCount : Nat
  notApplicableCount : Nat
  deriving DecidableEq

/-- What a report is made of. -/
@[ext] structure EvaluationEvidenceValidationReportFields where
  reportId : UUID
  bundleId : UUID
  planId : UUID
  executionId : UUID
  classification : DataClassification
  findings : List EvaluationEvidenceValidationFinding
  summary : EvaluationEvidenceValidationSummary
  overallStatus : EvaluationEvidenceValidationStatus
  createdAt : DateTime
  deriving DecidableEq

def expectedCategory :
    EvaluationEvidenceValidationRule → EvaluationEvidenceValidationCategory
  | .canonicalOrder | .uniqueReference => .structural
  | .planBinding | .executionBinding | .provenanceBinding | .lineageBinding | .datasetBinding
  | .registryBinding => .binding
  | .authorizationBinding | .policyBinding | .auditMetadata => .governance
  | .schemaVersion => .compatibility
  | .lifecycleEligibility => .lifecycle

/-- Findings must be of every rule once, in order, and not after their report. -/
def validateFindingCollection (findings : List EvaluationEvidenceValidationFinding)
    (reportCreatedAt : DateTime) : Except PipelineError Unit := do
  rejectIf (¬ (findings.map (·.findingId)).Nodup)
    (.raised .duplicateFinding "duplicate evaluation evidence validation finding identity")
  rejectIf (¬ (findings.map (·.rule)).Nodup)
    (.raised .duplicateFinding "duplicate evaluation evidence validation rule")
  rejectIf (findings.map (·.rule) ≠ validationRules)
    (.raised .finding "evaluation evidence validation rules must be complete and canonical")
  checkEach (fun finding => do
    rejectIf (finding.category ≠ expectedCategory finding.rule)
      (.raised .finding "evaluation evidence validation category mismatch")
    rejectIf (reportCreatedAt < finding.createdAt)
      (.raised .finding "evaluation evidence validation finding follows report")) findings

def buildSummary (findings : List EvaluationEvidenceValidationFinding) :
    EvaluationEvidenceValidationSummary where
  passedCount := findings.countP (·.status = .passed)
  failedCount := findings.countP (·.status = .failed)
  skippedCount := findings.countP (·.status = .skipped)
  notApplicableCount := findings.countP (·.status = .notApplicable)

/-- A report fails if a finding does. -/
def deriveOverallStatus (findings : List EvaluationEvidenceValidationFinding) :
    EvaluationEvidenceValidationStatus :=
  if ∃ finding ∈ findings, finding.status = .failed then .failed else .passed

/-- A report must be consistent with its findings. -/
def EvaluationEvidenceValidationReportFields.consistent
    (report : EvaluationEvidenceValidationReportFields) : Except PipelineError Unit := do
  validateFindingCollection report.findings report.createdAt
  rejectIf (report.summary ≠ buildSummary report.findings)
    (.raised .summary "evaluation evidence validation summary mismatch")
  rejectIf (report.overallStatus ≠ deriveOverallStatus report.findings)
    (.raised .report "evaluation evidence validation overall status mismatch")

/-- A consistent report. -/
structure EvaluationEvidenceValidationReport extends
    EvaluationEvidenceValidationReportFields where
  isConsistent : toEvaluationEvidenceValidationReportFields.consistent = .ok ()

structure EvaluationEvidenceValidationRequest where
  reportId : UUID
  bundle : EvaluationEvidenceBundle
  plan : EvidencePlan
  executionRecord : EvaluationExecutionRecord
  classification : DataClassification
  findings : List EvaluationEvidenceValidationFinding
  createdAt : DateTime

/-- The status the finding of a rule must have. -/
def expectedStatus (bundle : EvaluationEvidenceBundle) (rule : EvaluationEvidenceValidationRule) :
    EvaluationEvidenceValidationStatus :=
  if rule = .auditMetadata ∧ bundle.auditMetadata = none then .notApplicable else .passed

def validateBundle (request : EvaluationEvidenceValidationRequest) : Except PipelineError Unit := do
  (requireClassificationNotLower request.classification
    [request.plan.classification, request.executionRecord.classification,
      request.bundle.classification] "evaluation validation classification").mapError .evaluation
  (validateEvaluationEvidenceBundle request.plan request.executionRecord
    request.bundle.toEvaluationEvidenceBundleFields).mapError .evidence
  validateFindingCollection request.findings request.createdAt
  checkEach (fun finding => rejectIf (finding.status ≠ expectedStatus request.bundle finding.rule)
    (.raised .finding "evaluation evidence validation finding status mismatch")) request.findings

/-- The fields of the report that is built. -/
def EvaluationEvidenceValidationRequest.report (request : EvaluationEvidenceValidationRequest) :
    EvaluationEvidenceValidationReportFields :=
  { request with
    bundleId := request.bundle.evidenceBundleId
    planId := request.plan.evaluationPlanId
    executionId := request.executionRecord.evaluationExecutionId
    summary := buildSummary request.findings
    overallStatus := deriveOverallStatus request.findings }

def buildValidationReport (request : EvaluationEvidenceValidationRequest) :
    Except PipelineError EvaluationEvidenceValidationReport := do
  validateBundle request
  buildChecked request.report.consistent fun valid => ⟨request.report, valid⟩

/-! ## Plans -/

/-- What a plan's audit metadata must repeat of it. -/
structure PlanAuditTerms where
  evaluationPlanId : UUID
  evaluationPlanVersion : String
  taskCount : Nat
  stageCount : Nat
  policyRevision : Nat
  registryRevision : Nat
  deriving DecidableEq

/-- What a pipeline reads of its plan: the number of its tasks, and the rest of its audit
metadata. -/
structure PipelinePlan extends EvidencePlan where
  taskCount : Nat
  auditTerms : Option PlanAuditTerms := none
  sameAudit : auditTerms.isSome = auditMetadata.isSome := by decide

/-- A fingerprint and audit metadata must be of the plan's version, revisions and tasks. -/
def validateEvaluationPlanMetadata (plan : PipelinePlan) (expectedAuthorizationRevision : Nat) :
    Except PipelineError Unit := do
  match plan.planningFingerprintReference, plan.evaluationPlanVersion with
  | none, _ => pure ()
  | some _, none =>
      throw (.raised .planBinding "planning fingerprint requires an evaluation plan version")
  | some fingerprint, some version =>
      rejectIf (fingerprint.fingerprintSchemaVersion ≠ version.plannerSchemaVersion)
        (.raised .planBinding "planning fingerprint schema mismatch")
  match plan.auditTerms, plan.evaluationPlanVersion with
  | none, _ => pure ()
  | some _, none =>
      throw (.raised .planBinding "plan audit metadata requires a plan version")
  | some audit, some version => do
      rejectIf (audit ≠ ⟨plan.evaluationPlanId, version.evaluationPlanVersion, plan.taskCount, 5,
          plan.evaluationPolicyRevision, plan.registryRevision⟩)
        (.raised .planBinding "plan audit metadata mismatch")
      rejectIf (∃ metadata ∈ plan.auditMetadata,
          metadata.authorizationRevision ≠ expectedAuthorizationRevision)
        (.raised .planAuthorization "plan audit authorization revision mismatch")

/-! ## Requests -/

structure EvaluationPipelineVersion where
  pipelineVersion : String
  pipelineSchemaVersion : String
  deriving DecidableEq

structure EvaluationPipelineComponentReference where
  componentReferenceId : UUID
  stage : EvaluationPipelineStage
  componentId : UUID
  componentVersion : Option String := none
  componentSchemaVersion : String
  ordinal : Nat
  createdAt : DateTime
  deriving DecidableEq

structure EvaluationPipelineAuditMetadata where
  pipelineId : UUID
  pipelineVersion : String
  planId : UUID
  executionId : UUID
  evidenceBundleId : UUID
  validationReportId : UUID
  componentCount : Nat
  finalStage : EvaluationPipelineStage
  pipelineState : EvaluationPipelineState
  policyRevision : Nat
  authorizationRevision : Nat
  registryRevision : Nat
  createdAt : DateTime
  deriving DecidableEq

structure EvaluationPipelineRequest where
  evaluationPlan : PipelinePlan
  evaluationExecutionRecord : EvaluationExecutionRecord
  evidenceBundle : EvaluationEvidenceBundle
  validationReport : EvaluationEvidenceValidationReport
  pipelineId : UUID
  pipelineVersion : EvaluationPipelineVersion
  pipelineState : EvaluationPipelineState
  currentStage : EvaluationPipelineStage
  classification : DataClassification
  componentReferences : List EvaluationPipelineComponentReference
  auditMetadata : Option EvaluationPipelineAuditMetadata := none
  createdAt : DateTime

section Pipeline

variable (request : EvaluationPipelineRequest)

def pipelineSchemaVersion : String := "pipeline-schema-v2"

/-- The id, version and schema version of the component of every stage. -/
def EvaluationPipelineRequest.expectedComponents : List (UUID × Option String × String) :=
  let version := request.evaluationPlan.evaluationPlanVersion
  let bundle := request.evidenceBundle
  [(request.evaluationPlan.evaluationPlanId, version.map (·.evaluationPlanVersion),
      (version.map (·.plannerSchemaVersion)).getD pipelineSchemaVersion),
    (request.evaluationExecutionRecord.evaluationExecutionId, none,
      "evaluation-execution-schema-v2"),
    (bundle.evidenceBundleId, some bundle.evidenceBundleVersion.evidenceBundleVersion,
      bundle.evidenceBundleVersion.evidenceSchemaVersion),
    (request.validationReport.reportId, none, "evaluation-validation-schema-v2"),
    (request.pipelineId, some request.pipelineVersion.pipelineVersion,
      request.pipelineVersion.pipelineSchemaVersion)]

def validateComponents : Except PipelineError Unit := do
  let references := request.componentReferences
  rejectIf (request.pipelineVersion.pipelineSchemaVersion ≠ pipelineSchemaVersion)
    (.raised .version "evaluation pipeline schema version is unsupported")
  rejectIf (references.map (·.ordinal) ≠ [1, 2, 3, 4, 5])
    (.raised .componentSequence "pipeline component ordinals are not canonical")
  rejectIf (references.map (·.stage) ≠
      [.planning, .execution, .evidence, .validation, .completed])
    (.raised .componentSequence "pipeline component stages are not canonical")
  rejectIf (¬ (references.map (·.componentReferenceId)).Nodup ∨
      ¬ (references.map (·.componentId)).Nodup ∨ ¬ (references.map (·.ordinal)).Nodup)
    (.raised .duplicateComponent "duplicate pipeline component")
  rejectIf (references.map (fun item =>
      (item.componentId, item.componentVersion, item.componentSchemaVersion)) ≠
        request.expectedComponents)
    (.raised .bindingMismatch "pipeline component binding mismatch")
  rejectIf (∃ item ∈ references, request.createdAt < item.createdAt)
    (.raised .timestamp "pipeline component follows pipeline creation")

/-- The execution and the report fit the state. -/
def EvaluationPipelineRequest.stateFits : Bool :=
  let execution := request.evaluationExecutionRecord.currentState
  let status := request.validationReport.overallStatus
  match request.pipelineState with
  | .active => execution = .inProgress
  | .completed => execution = .completed && status = .passed
  | .failed => execution = .failed || status = .failed
  | .cancelled => execution = .cancelled
  | .assembled => execution.evidential

def validateState : Except PipelineError Unit :=
  rejectIf (request.stateFits = false ∨ request.currentStage ≠
      if request.pipelineState = .completed then .completed else .validation)
    (.raised .state "pipeline state or current stage is incompatible")

/-- The audit metadata a pipeline must have if it has any. -/
def EvaluationPipelineRequest.expectedAuditMetadata : EvaluationPipelineAuditMetadata where
  pipelineId := request.pipelineId
  pipelineVersion := request.pipelineVersion.pipelineVersion
  planId := request.evaluationPlan.evaluationPlanId
  executionId := request.evaluationExecutionRecord.evaluationExecutionId
  evidenceBundleId := request.evidenceBundle.evidenceBundleId
  validationReportId := request.validationReport.reportId
  componentCount := 5
  finalStage := request.currentStage
  pipelineState := request.pipelineState
  policyRevision := request.evaluationPlan.evaluationPolicyRevision
  authorizationRevision :=
    request.evaluationExecutionRecord.executionContext.authorizationRevision
  registryRevision := request.evaluationPlan.registryRevision
  createdAt := request.createdAt

def validateAudit : Except PipelineError Unit :=
  rejectIf (∃ audit ∈ request.auditMetadata, audit ≠ request.expectedAuditMetadata)
    (.raised .auditMetadata "pipeline audit metadata mismatch")

/-- A pipeline must bind its plan, execution, bundle and report to each other. -/
def validateEvaluationPipeline : Except PipelineError Unit := do
  let plan := request.evaluationPlan
  let record := request.evaluationExecutionRecord
  let bundle := request.evidenceBundle
  let report := request.validationReport
  let context := record.executionContext
  (requireClassificationNotLower request.classification
    [plan.classification, context.classification, record.classification, bundle.classification,
      report.classification] "evaluation pipeline classification").mapError .evaluation
  validateEvaluationPlanMetadata plan context.authorizationRevision
  (validateEvaluationExecutionPlanBinding context plan.toEvaluationPlan).mapError .evaluation
  (validateEvaluationEvidenceBundle plan.toEvidencePlan record
    bundle.toEvaluationEvidenceBundleFields).mapError .evidence
  report.consistent
  rejectIf (report.bundleId ≠ bundle.evidenceBundleId ∨ report.planId ≠ plan.evaluationPlanId ∨
      report.executionId ≠ record.evaluationExecutionId)
    (.raised .bindingMismatch "validation report binding mismatch")
  rejectIf (plan.authorizationDecisionId ≠ bundle.provenance.authorizationDecisionId)
    (.raised .authorizationBinding "authorization binding mismatch")
  rejectIf (request.createdAt < max (max record.updatedAt bundle.createdAt) report.createdAt)
    (.raised .timestamp "pipeline predates a bound component")
  rejectIf (plan.executionTier ≠ .offlineEvaluation)
    (.raised .bindingMismatch "pipeline requires offline evaluation tier")
  validateComponents request
  validateState request
  validateAudit request

end Pipeline

/-! ## Completed pipelines -/

/-- The request that builds the report of a pipeline from its findings. -/
def EvaluationPipelineRequest.reportRequest (request : EvaluationPipelineRequest) :
    EvaluationEvidenceValidationRequest where
  reportId := request.validationReport.reportId
  bundle := request.evidenceBundle
  plan := request.evaluationPlan.toEvidencePlan
  executionRecord := request.evaluationExecutionRecord
  classification := request.validationReport.classification
  findings := request.validationReport.findings
  createdAt := request.validationReport.createdAt

/-- The report of a pipeline is the one that is built for its bundle, plan and execution; every
rule has one finding, which passed unless it is of audit metadata that is absent. -/
structure ReallyValidated (request : EvaluationPipelineRequest) : Prop where
  built : buildValidationReport request.reportRequest = .ok request.validationReport
  rules : request.validationReport.findings.map (·.rule) = validationRules
  statuses : ∀ finding ∈ request.validationReport.findings,
    finding.status = expectedStatus request.evidenceBundle finding.rule

/-- What a report that did not fail leaves open: its classification, and which rules it skipped or
found not applicable. -/
structure ReportCovers (request : EvaluationPipelineRequest) : Prop where
  classification : ∀ source ∈ [request.evaluationPlan.classification,
    request.evaluationExecutionRecord.classification, request.evidenceBundle.classification],
    notLower request.validationReport.classification source
  unskipped : ∀ finding ∈ request.validationReport.findings, finding.status ≠ .skipped
  applicable : ∀ finding ∈ request.validationReport.findings,
    finding.status = .notApplicable ↔
      finding.rule = .auditMetadata ∧ request.evidenceBundle.auditMetadata = none

theorem rules_of_validateFindingCollection
    {findings : List EvaluationEvidenceValidationFinding} {createdAt : DateTime}
    (collected : validateFindingCollection findings createdAt = .ok ()) :
    findings.map (·.rule) = validationRules := by
  simp only [validateFindingCollection, bind_eq_ok_iff, exists_unit_iff, rejectIf_eq_ok_iff,
    not_not, ne_eq] at collected
  exact collected.2.2.1

/-- A pipeline that is accepted as completed was really validated exactly if its report is not
classified too low, skipped no rule and found none but absent audit metadata not applicable. -/
theorem reallyValidated_iff (request : EvaluationPipelineRequest)
    (accepted : validateEvaluationPipeline request = .ok ())
    (completed : request.pipelineState = .completed) :
    ReallyValidated request ↔ ReportCovers request := by
  have consistent := request.validationReport.isConsistent
  simp only [EvaluationEvidenceValidationReportFields.consistent, bind_eq_ok_iff, exists_unit_iff,
    rejectIf_eq_ok_iff, not_not, ne_eq] at consistent
  obtain ⟨collected, summary, overall⟩ := consistent
  simp only [validateEvaluationPipeline, bind_eq_ok_iff, exists_unit_iff, mapError_eq_ok_iff,
    rejectIf_eq_ok_iff, not_or, not_not, ne_eq, validateState,
    EvaluationPipelineRequest.stateFits, completed] at accepted
  obtain ⟨-, -, -, bundled, -, ⟨bundleId, planId, executionId⟩, -, -, -, -, ⟨fits, -⟩, -⟩ := accepted
  have passed : request.validationReport.overallStatus = .passed := by
    simp only [Bool.not_eq_false, Bool.and_eq_true, decide_eq_true_eq] at fits
    exact fits.2
  constructor
  · intro validated
    have built := validated.built
    simp only [buildValidationReport, validateBundle, bind_eq_ok_iff, exists_unit_iff,
      mapError_eq_ok_iff, requireClassificationNotLower_eq_ok_iff] at built
    refine ⟨built.1.1.2, fun finding isFinding skipped => ?_, fun finding isFinding => ?_⟩
    · have status := validated.statuses finding isFinding
      rw [skipped, expectedStatus] at status
      split_ifs at status
    · rw [validated.statuses finding isFinding, expectedStatus]
      split_ifs with absent <;> simp [absent]
  · intro covers
    have statuses : ∀ finding ∈ request.validationReport.findings,
        finding.status = expectedStatus request.evidenceBundle finding.rule := by
      intro finding isFinding
      have unfailed : finding.status ≠ .failed := by
        intro failed
        have overallFailed : deriveOverallStatus request.validationReport.findings = .failed :=
          if_pos ⟨finding, isFinding, failed⟩
        rw [← overall, passed] at overallFailed
        cases overallFailed
      have applicable := covers.applicable finding isFinding
      have unskipped := covers.unskipped finding isFinding
      rw [expectedStatus]
      cases status : finding.status <;> simp_all
    have fields : request.reportRequest.report =
        request.validationReport.toEvaluationEvidenceValidationReportFields := by
      ext1
      case bundleId => exact bundleId.symm
      case planId => exact planId.symm
      case executionId => exact executionId.symm
      case summary => exact summary.symm
      case overallStatus => exact overall.symm
      all_goals rfl
    refine ⟨?_, rules_of_validateFindingCollection collected, statuses⟩
    simp only [buildValidationReport, validateBundle, bind_eq_ok_iff, exists_unit_iff,
      mapError_eq_ok_iff, requireClassificationNotLower_eq_ok_iff, checkEach_eq_ok_iff,
      rejectIf_eq_ok_iff, not_not, buildChecked_eq_ok_iff]
    refine ⟨⟨⟨by simp, covers.classification⟩, bundled, collected, statuses⟩,
      fields ▸ request.validationReport.isConsistent, ?_⟩
    simp only [fields]

namespace ExecutionSample

/-- The evidence of the completed execution. -/
def completedBundle : EvaluationEvidenceBundle := givenValue _ plan_bundled

/-- Findings of every rule, with the status of each. -/
def findingsOf (status : EvaluationEvidenceValidationRule → EvaluationEvidenceValidationStatus) :
    List EvaluationEvidenceValidationFinding :=
  validationRules.zipIdx.map fun (rule, place) =>
    ⟨place, rule, expectedCategory rule, status rule, 130⟩

/-- The report of findings. -/
def reportOf (status : EvaluationEvidenceValidationRule → EvaluationEvidenceValidationStatus) :
    EvaluationEvidenceValidationReportFields where
  reportId := 70
  bundleId := 50
  planId := 1
  executionId := 20
  classification := .public
  findings := findingsOf status
  summary := buildSummary (findingsOf status)
  overallStatus := .passed
  createdAt := 130

/-- The pipeline of the completed execution, with a report. -/
def pipeline (report : EvaluationEvidenceValidationReport) : EvaluationPipelineRequest where
  evaluationPlan := { evidencePlan plan with taskCount := 5 }
  evaluationExecutionRecord := completed
  evidenceBundle := completedBundle
  validationReport := report
  pipelineId := 80
  pipelineVersion := ⟨"1", pipelineSchemaVersion⟩
  pipelineState := .completed
  currentStage := .completed
  classification := .public
  componentReferences :=
    [⟨81, .planning, 1, none, pipelineSchemaVersion, 1, 140⟩,
      ⟨82, .execution, 20, none, "evaluation-execution-schema-v2", 2, 140⟩,
      ⟨83, .evidence, 50, some "1", "1", 3, 140⟩,
      ⟨84, .validation, 70, none, "evaluation-validation-schema-v2", 4, 140⟩,
      ⟨85, .completed, 80, some "1", pipelineSchemaVersion, 5, 140⟩]
  createdAt := 140

/-- Every rule passed but that of the absent audit metadata; and every rule was skipped. -/
def passedReport : EvaluationEvidenceValidationReport where
  toEvaluationEvidenceValidationReportFields := reportOf (expectedStatus completedBundle)
  isConsistent := by decide +kernel
def skippedReport : EvaluationEvidenceValidationReport where
  toEvaluationEvidenceValidationReportFields := reportOf fun _ => .skipped
  isConsistent := by decide +kernel

end ExecutionSample

open ExecutionSample in
/-- The pipeline of the completed execution was validated. -/
theorem reallyValidated_passed : ReallyValidated (pipeline passedReport) :=
  (reallyValidated_iff (pipeline passedReport) (by decide +kernel) rfl).mpr
    ⟨by decide +kernel, by decide +kernel, by decide +kernel⟩

open ExecutionSample in
/-- A pipeline is completed by a report that skipped every rule. -/
theorem not_reallyValidated : ¬ ∀ request, validateEvaluationPipeline request = .ok () →
    request.pipelineState = .completed → ReallyValidated request := by
  intro validated
  have statuses := (validated (pipeline skippedReport) (by decide +kernel) rfl).statuses
  exact absurd statuses (by decide +kernel)

end PolicyOS.Evaluation
