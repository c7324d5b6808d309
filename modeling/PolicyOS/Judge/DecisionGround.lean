import PolicyOS.Judge.BundleTotality

/-!
# What a recorded decision rests on

An assessment bundle is validated for its policy and its inputs, and a decision for its own.
Of the bundle a recorded decision names, only the identifier, the classification and the time
are compared with the decision: it may be a bundle of any policy, tenant and inputs.
-/

namespace PolicyOS.Judge

open Foundation Metrics

/-! ## Accepted assessment bundles -/

/-- The criterion and the input an assessment is of. -/
def JudgeAssessment.pair (assessment : JudgeAssessment) : UUID × UUID :=
  (assessment.judgeCriterionId, assessment.judgeInputReferenceId)

theorem validateBundleInputs_eq {bundle : JudgeAssessmentBundle} {policy : JudgePolicy}
    {aggregation : JudgedAggregationBundle} {earlier inputs : List JudgeInputReference} :
    validateBundleInputs bundle policy aggregation earlier inputs =
      checkAfter (validateBundleInput bundle policy aggregation) earlier inputs :=
  eq_checkAfter (fun _ => rfl) fun _ _ _ => rfl

theorem validateBundleAssessments_eq {bundle : JudgeAssessmentBundle} {policy : JudgePolicy}
    {criteria : List JudgeCriterion} {earlier assessments : List JudgeAssessment} :
    validateBundleAssessments bundle policy criteria earlier assessments =
      checkAfter (validateBundleAssessment bundle policy criteria) earlier assessments :=
  eq_checkAfter (fun _ => rfl) fun _ _ _ => rfl

/-- What an accepted assessment bundle says of its policy and its inputs. -/
structure AssessedFor (bundle : JudgeAssessmentBundle) (policy : JudgePolicy) : Prop where
  version : bundle.judgePolicyVersion = policy.judgePolicyVersion
  tenant : bundle.tenantId = policy.tenantId
  organization : bundle.organizationId = policy.organizationId
  lineage : ∀ input ∈ bundle.judgeInputReferences,
    input.lineageId = bundle.rootLineageId ∧
      input.lineageDigestReference = bundle.rootLineageDigestReference
  required : ∀ reference ∈ policy.orderedCriterionReferences, reference.required →
    ∀ input ∈ bundle.judgeInputReferences,
      (reference.judgeCriterionId, input.judgeInputReferenceId) ∈
        bundle.assessments.map (·.pair)
  distinct : (bundle.assessments.map (·.pair)).Nodup

theorem AssessedFor.of_validate {bundle : JudgeAssessmentBundle} {policy : JudgePolicy}
    {criteria : List JudgeCriterion} {aggregation : JudgedAggregationBundle}
    (valid : validateJudgeAssessmentBundle bundle policy criteria aggregation = .ok ()) :
    AssessedFor bundle policy := by
  simp only [validateJudgeAssessmentBundle, scope, bind_eq_ok_iff, exists_unit_iff,
    rejectIf_eq_ok_iff, ne_eq, not_not, validateBundleInputs_eq,
    validateBundleAssessments_eq] at valid
  obtain ⟨-, version, ⟨tenant, organization⟩, -, -, inputs, -, assessments, required, -⟩ := valid
  refine ⟨version, tenant, organization, ?_, ?_, ?_⟩
  · intro input isInput
    obtain ⟨_, checked⟩ := exists_of_checkAfter inputs isInput
    simp only [validateBundleInput, bind_eq_ok_iff, exists_unit_iff, rejectIf_eq_ok_iff,
      not_or, ne_eq, not_not] at checked
    obtain ⟨-, -, _, -, -, -, lineage⟩ := checked
    exact lineage
  · intro reference isReference isRequired input isInput
    by_contra missing
    exact required ⟨reference, isReference, isRequired, input, isInput, missing⟩
  · refine nodup_of_checkAfter (fun before assessment checked => ?_) assessments
    simp only [validateBundleAssessment, bind_eq_ok_iff, exists_unit_iff,
      rejectIf_eq_ok_iff] at checked
    obtain ⟨-, _, -, _, -, -, -, fresh, -⟩ := checked
    exact fresh

/-! ## Decisions -/

/-- The assessment bundle of a decision is of its policy, scope and lineage and of exactly its
inputs, and assesses every required criterion of its policy once on every input of it. -/
structure RestsOnOwn (decision : JudgeDecisionRecord) (policy : JudgePolicy)
    (inputs : List JudgeInputReference) (bundle : JudgeAssessmentBundle) : Prop where
  samePolicy : bundle.judgePolicyId = decision.judgePolicyId
  sameVersion : bundle.judgePolicyVersion = decision.judgePolicyVersion
  sameTenant : bundle.tenantId = decision.tenantId
  sameOrganization : bundle.organizationId = decision.organizationId
  sameLineage : bundle.rootLineageId = decision.lineageId ∧
    bundle.rootLineageDigestReference = decision.lineageDigestReference
  sameInputs : ∀ input, input ∈ bundle.judgeInputReferences ↔ input ∈ inputs
  assessed : ∀ reference ∈ policy.orderedCriterionReferences, reference.required →
    ∀ inputId ∈ decision.judgeInputReferenceIds,
      (bundle.assessments.map (·.pair)).count (reference.judgeCriterionId, inputId) = 1

/-- The assessment bundle of a decision is of its policy and of exactly its inputs. -/
structure NamesOwn (decision : JudgeDecisionRecord) (inputs : List JudgeInputReference)
    (bundle : JudgeAssessmentBundle) : Prop where
  samePolicy : bundle.judgePolicyId = decision.judgePolicyId
  sameInputs : ∀ input, input ∈ bundle.judgeInputReferences ↔ input ∈ inputs

theorem RestsOnOwn.of_named {decision : JudgeDecisionRecord} {policy : JudgePolicy}
    {inputs : List JudgeInputReference} {bundle : JudgeAssessmentBundle}
    (decided : validateJudgeDecisionRecord decision policy inputs (some bundle) = .ok ())
    (assessed : AssessedFor bundle policy) (own : NamesOwn decision inputs bundle) :
    RestsOnOwn decision policy inputs bundle := by
  simp only [validateJudgeDecisionRecord, scope, bind_eq_ok_iff, exists_unit_iff,
    rejectIf_eq_ok_iff, checkEach_eq_ok_iff, ne_eq, not_not] at decided
  obtain ⟨-, version, ⟨tenant, organization⟩, -, inputIds, ofInputs, -⟩ := decided
  refine ⟨own.samePolicy, assessed.version.trans version.symm, assessed.tenant.trans tenant.symm,
    assessed.organization.trans organization.symm, ?_, own.sameInputs, ?_⟩
  · -- a bundle has an input, and it is one of the decision's
    obtain ⟨input, isInput⟩ := List.exists_mem_of_ne_nil _ bundle.referenced
    have ofInput := ofInputs input ((own.sameInputs input).mp isInput)
    simp only [validateDecisionInput, bind_eq_ok_iff, exists_unit_iff, rejectIf_eq_ok_iff,
      not_or, ne_eq, not_not] at ofInput
    obtain ⟨⟨sameLineage, sameDigest⟩, -⟩ := ofInput
    obtain ⟨rooted, rootedDigest⟩ := assessed.lineage input isInput
    exact ⟨rooted.symm.trans sameLineage.symm, rootedDigest.symm.trans sameDigest.symm⟩
  · intro reference isReference isRequired inputId isNamed
    rw [inputIds] at isNamed
    obtain ⟨input, isInput, rfl⟩ := List.mem_map.mp isNamed
    exact List.count_eq_one_of_mem assessed.distinct
      (assessed.required reference isReference isRequired input ((own.sameInputs input).mpr isInput))

namespace Sample

/-- The policy of another tenant. -/
def otherPolicy : JudgePolicy := { policy with judgePolicyId := 41, tenantId := 200 }

/-- The input of that policy. -/
def otherInput : JudgeInputReference :=
  { inputReference with judgeInputReferenceId := 43, judgePolicyId := 41, tenantId := 200 }

/-- The decision of that policy, on the assessments of the first one. -/
def otherDecision : JudgeDecisionRecord where
  judgeDecisionRecordId := 46
  judgePolicyId := 41
  judgePolicyVersion := version
  judgeAssessmentBundleId := some 35
  judgeInputReferenceIds := [43]
  decisionStatus := .recorded
  decisionOutcomeReference := some "approved"
  reasonCodes := [.callerSupplied]
  actorId := 102
  tenantId := 200
  organizationId := 101
  classification := .internal
  lineageId := 4
  lineageDigestReference := "lineage"
  policyRevision := 1
  recordedAt := 10

end Sample

end PolicyOS.Judge
