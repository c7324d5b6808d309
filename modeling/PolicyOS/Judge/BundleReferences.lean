import PolicyOS.Judge.BundleTotality

/-!
# References of a decision bundle

A lineage reference is validated for the policies whose decisions it names, a provenance
reference for the policies it names itself, and a policy-criterion reference for its policy.
One that names nothing the bundle holds is never validated. Of the two references inside a
review requirement only the decisions under review are looked for.
-/

namespace PolicyOS.Judge

open Foundation Metrics

/-! ## What is named -/

/-- The identifiers a reference names, by the kind of part they are of. -/
structure NamedParts where
  policies : List UUID := []
  criteria : List UUID := []
  inputs : List UUID := []
  assessmentBundles : List UUID := []
  decisions : List UUID := []

/-- What a policy-criterion reference names. -/
def JudgePolicyCriterionReference.named (item : JudgePolicyCriterionReference) : NamedParts where
  policies := [item.judgePolicyId]
  criteria := [item.judgeCriterionId]

/-- What a lineage reference names. -/
def JudgeDecisionLineageReference.named (item : JudgeDecisionLineageReference) : NamedParts where
  inputs := item.judgeInputReferenceIds
  assessmentBundles := item.judgeAssessmentBundleIds
  decisions := item.judgeDecisionRecordIds

/-- What a provenance reference names. -/
def JudgeDecisionProvenanceReference.named (item : JudgeDecisionProvenanceReference) :
    NamedParts where
  policies := item.judgePolicyIds
  inputs := item.judgeInputReferenceIds
  assessmentBundles := item.judgeAssessmentBundleIds
  decisions := item.judgeDecisionRecordIds

/-- What a review requirement names besides its own two references. -/
def JudgeReviewRequirement.named (item : JudgeReviewRequirement) : NamedParts where
  decisions := item.judgeDecisionRecordIds

namespace JudgeDecisionBundle

variable (bundle : JudgeDecisionBundle)

/-- Everything named is a part of the bundle. -/
structure Resolves (named : NamedParts) : Prop where
  policies : named.policies ⊆ bundle.policies.map (·.judgePolicyId)
  criteria : named.criteria ⊆ bundle.criteria.map (·.judgeCriterionId)
  inputs : named.inputs ⊆ bundle.inputReferences.map (·.judgeInputReferenceId)
  assessmentBundles :
    named.assessmentBundles ⊆ bundle.assessmentBundles.map (·.judgeAssessmentBundleId)
  decisions : named.decisions ⊆ bundle.decisionRecords.map (·.judgeDecisionRecordId)

/-- What the references and review requirements of the bundle name. -/
def allNamed : List NamedParts :=
  bundle.policyCriterionReferences.map (·.named) ++ bundle.lineageReferences.map (·.named) ++
    bundle.provenanceReferences.map (·.named) ++
    bundle.reviewRequirements.flatMap fun item =>
      [item.named, item.lineageReference.named, item.provenanceReference.named]

/-- The inputs of a policy. -/
def inputsOf (policy : JudgePolicy) : List JudgeInputReference :=
  bundle.inputReferences.filter (·.judgePolicyId = policy.judgePolicyId)

/-- The decisions of a policy. -/
def decisionsOf (policy : JudgePolicy) : List JudgeDecisionRecord :=
  bundle.decisionRecords.filter (·.judgePolicyId = policy.judgePolicyId)

/-- A lineage reference passes its validator for a policy of the bundle. -/
def PassesLineage (item : JudgeDecisionLineageReference) (policy : JudgePolicy) : Prop :=
  policy ∈ bundle.policies ∧
    validateJudgeDecisionLineageReference item bundle.judgeDecisionBundleId policy
      (bundle.inputsOf policy) (bundle.decisionsOf policy) bundle.rootLineageId
      bundle.rootLineageDigestReference = .ok ()

/-- A provenance reference passes its validator for a policy of the bundle. -/
def PassesProvenance (item : JudgeDecisionProvenanceReference) (policy : JudgePolicy) : Prop :=
  policy ∈ bundle.policies ∧
    validateJudgeDecisionProvenanceReference item policy bundle.criteria (bundle.inputsOf policy)
      (bundle.decisionsOf policy) = .ok ()

/-- Everything named is in the bundle, and every lineage and provenance reference passed its
validator for one policy, of which are the decisions and inputs it names. -/
structure ReferencesResolve : Prop where
  resolved : ∀ named ∈ bundle.allNamed, bundle.Resolves named
  lineages : ∀ item ∈ bundle.lineageReferences, ∃! policy, bundle.PassesLineage item policy
  provenances :
    ∀ item ∈ bundle.provenanceReferences, ∃! policy, bundle.PassesProvenance item policy

/-- A lineage reference names a decision of the bundle, a provenance reference a policy and a
policy-criterion reference its policy; none names an assessment bundle, and those inside a
review requirement name nothing else. -/
structure NamesKnown : Prop where
  criterionReferences : ∀ item ∈ bundle.policyCriterionReferences,
    item.judgePolicyId ∈ bundle.policies.map (·.judgePolicyId)
  lineages : ∀ item ∈ bundle.lineageReferences,
    (∃ decision ∈ bundle.decisionRecords,
      decision.judgeDecisionRecordId ∈ item.judgeDecisionRecordIds) ∧
    item.judgeAssessmentBundleIds = []
  provenances : ∀ item ∈ bundle.provenanceReferences,
    (∃ policy ∈ bundle.policies, policy.judgePolicyId ∈ item.judgePolicyIds) ∧
    item.judgeAssessmentBundleIds = []
  reviews : ∀ item ∈ bundle.reviewRequirements,
    bundle.Resolves item.lineageReference.named ∧ bundle.Resolves item.provenanceReference.named

variable {bundle}

/-! ## What a validator looked for -/

theorem found_eq_ok_iff {Item : Type} {item : Option Item} {error : JudgeError} {value : Item} :
    found item error = .ok value ↔ item = some value := by
  cases item <;> simp [found]

/-- Identifiers that are all found are those of some parts. -/
theorem subset_of_lookup {Item : Type} {items : List Item} {key : Item → UUID} {ids : List UUID}
    {Fits : Item → Prop}
    (found : ∀ wanted ∈ ids, ∃ item, lookup key items wanted = some item ∧ Fits item) :
    ids ⊆ items.map key := by
  intro wanted isNamed
  obtain ⟨item, isFound, -⟩ := found wanted isNamed
  exact List.mem_map.mpr ⟨item, lookup_eq_some isFound⟩

/-- What a lineage reference names is of the policy it passed for. -/
theorem PassesLineage.named {item : JudgeDecisionLineageReference} {policy : JudgePolicy}
    (passes : bundle.PassesLineage item policy) :
    item.judgeInputReferenceIds ⊆ (bundle.inputsOf policy).map (·.judgeInputReferenceId) ∧
      item.judgeDecisionRecordIds ⊆
        (bundle.decisionsOf policy).map (·.judgeDecisionRecordId) := by
  have valid := passes.2
  simp only [validateJudgeDecisionLineageReference, bind_eq_ok_iff, exists_unit_iff,
    checkEach_eq_ok_iff, found_eq_ok_iff] at valid
  obtain ⟨-, -, inputs, -, decisions, -⟩ := valid
  exact ⟨subset_of_lookup inputs, subset_of_lookup decisions⟩

/-- What a provenance reference names is of the policy it passed for. -/
theorem PassesProvenance.named {item : JudgeDecisionProvenanceReference} {policy : JudgePolicy}
    (passes : bundle.PassesProvenance item policy) :
    item.judgePolicyIds = [policy.judgePolicyId] ∧
      item.judgeInputReferenceIds ⊆ (bundle.inputsOf policy).map (·.judgeInputReferenceId) ∧
      item.judgeDecisionRecordIds ⊆
        (bundle.decisionsOf policy).map (·.judgeDecisionRecordId) := by
  have valid := passes.2
  simp only [validateJudgeDecisionProvenanceReference, bind_eq_ok_iff, exists_unit_iff,
    rejectIf_eq_ok_iff, checkEach_eq_ok_iff, found_eq_ok_iff, ne_eq, not_not] at valid
  obtain ⟨-, one, -, inputs, decisions, -⟩ := valid
  exact ⟨one, subset_of_lookup inputs, subset_of_lookup decisions⟩

theorem map_filter_subset {Item : Type} {items : List Item} {kept : Item → Bool}
    {key : Item → UUID} : (items.filter kept).map key ⊆ items.map key :=
  List.map_subset _ (List.filter_subset_self _)

/-- The criterion references of an accepted policy are of criteria that were given. -/
theorem criteria_of_references {policy : JudgePolicy} {criteria : List JudgeCriterion}
    {references : List JudgePolicyCriterionReference}
    (valid : validateCriterionReferences policy criteria [] references = .ok ())
    {reference : JudgePolicyCriterionReference} (isReference : reference ∈ references) :
    reference.judgeCriterionId ∈ criteria.map (·.judgeCriterionId) := by
  have walked : validateCriterionReferences policy criteria [] references =
      checkAfter (validateCriterionReference policy criteria) [] references :=
    eq_checkAfter (fun _ => rfl) fun _ _ _ => rfl
  obtain ⟨_, checked⟩ := exists_of_checkAfter (walked.symm.trans valid) isReference
  simp only [validateCriterionReference, bind_eq_ok_iff, exists_unit_iff,
    found_eq_ok_iff] at checked
  obtain ⟨-, -, -, -, criterion, isFound, -⟩ := checked
  exact List.mem_map.mpr ⟨criterion, lookup_eq_some isFound⟩

/-! ## What a validated bundle says -/

/-- What the parts of a validated bundle passed. -/
structure PartsValid (bundle : JudgeDecisionBundle) : Prop where
  policies : ∀ policy ∈ bundle.policies, bundle.validatePolicy policy = .ok ()
  decisions : ∀ item ∈ bundle.decisionRecords, bundle.validateDecision item = .ok ()
  reviews : ∀ item ∈ bundle.reviewRequirements, bundle.validateReview item = .ok ()
  references : ∀ policy ∈ bundle.policies, bundle.validatePolicyReferences policy = .ok ()
  distinctPolicies : (bundle.policies.map (·.judgePolicyId)).Nodup
  distinctDecisions : (bundle.decisionRecords.map (·.judgeDecisionRecordId)).Nodup

theorem PartsValid.of_validate (validated : validateJudgeDecisionBundle bundle = .ok ()) :
    PartsValid bundle := by
  have valid := references_valid validated
  simp only [validateReferences, validateUniqueness, requireUnique, bind_eq_ok_iff,
    exists_unit_iff, checkEach_eq_ok_iff, rejectIf_eq_ok_iff, not_not] at valid
  obtain ⟨-, ⟨policyIds, -, -, -, -, -, decisionIds, -⟩, -, policies, -, -, -, -, decisions,
    reviews, references⟩ := valid
  exact ⟨policies, decisions, reviews, references, policyIds, decisionIds⟩

namespace PartsValid

theorem policy_unique (valid : PartsValid bundle) {policy other : JudgePolicy}
    (isPolicy : policy ∈ bundle.policies) (isOther : other ∈ bundle.policies)
    (same : other.judgePolicyId = policy.judgePolicyId) : other = policy :=
  List.inj_on_of_nodup_map valid.distinctPolicies isOther isPolicy same

/-- The policy of a decision is in the bundle. -/
theorem policy_of_decision (valid : PartsValid bundle) {decision : JudgeDecisionRecord}
    (isDecision : decision ∈ bundle.decisionRecords) :
    ∃ policy ∈ bundle.policies, policy.judgePolicyId = decision.judgePolicyId := by
  have checked := valid.decisions decision isDecision
  simp only [validateDecision, bind_eq_ok_iff, found_eq_ok_iff] at checked
  obtain ⟨policy, isPolicy, -⟩ := checked
  exact ⟨policy, lookup_eq_some isPolicy⟩

/-- A policy-criterion reference of a policy of the bundle is of a criterion of the bundle. -/
theorem criterion_known (valid : PartsValid bundle) {item : JudgePolicyCriterionReference}
    (isItem : item ∈ bundle.policyCriterionReferences) {policy : JudgePolicy}
    (isPolicy : policy ∈ bundle.policies) (own : policy.judgePolicyId = item.judgePolicyId) :
    item.judgeCriterionId ∈ bundle.criteria.map (·.judgeCriterionId) := by
  have checked := valid.policies policy isPolicy
  simp only [validatePolicy, validateJudgePolicy, bind_eq_ok_iff, exists_unit_iff,
    rejectIf_eq_ok_iff, ne_eq, not_not] at checked
  obtain ⟨-, -, ⟨owned, -⟩, listed⟩ := checked
  have isOwned : item ∈ policy.orderedCriterionReferences := by
    rw [listed, List.mem_filter]
    exact ⟨isItem, decide_eq_true own.symm⟩
  obtain ⟨criterion, isCriterion, same⟩ :=
    List.mem_map.mp (criteria_of_references owned isOwned)
  obtain ⟨_, -, isFound⟩ := List.mem_filterMap.mp isCriterion
  exact List.mem_map.mpr ⟨criterion, (lookup_eq_some isFound).1, same⟩

/-- The decisions under review are in the bundle. -/
theorem review_resolves (valid : PartsValid bundle) {item : JudgeReviewRequirement}
    (isItem : item ∈ bundle.reviewRequirements) : bundle.Resolves item.named := by
  have checked := valid.reviews item isItem
  simp only [validateReview, validateJudgeReviewRequirement, bind_eq_ok_iff, exists_unit_iff,
    checkEach_eq_ok_iff, validateReviewDecision, found_eq_ok_iff] at checked
  obtain ⟨-, _, -, policy, -, ⟨-, -, reviewed, -⟩, -⟩ := checked
  refine ⟨List.nil_subset _, List.nil_subset _, List.nil_subset _, List.nil_subset _, ?_⟩
  intro decisionId isNamed
  obtain ⟨decision, isFound, -⟩ := reviewed decisionId isNamed
  obtain ⟨isReviewed, same⟩ := lookup_eq_some isFound
  exact List.mem_map.mpr ⟨decision, (List.mem_filter.mp isReviewed).1, same⟩

/-- A lineage reference that names a decision of the bundle was validated for its policy. -/
theorem lineage_passes (valid : PartsValid bundle) {item : JudgeDecisionLineageReference}
    (isItem : item ∈ bundle.lineageReferences) {decision : JudgeDecisionRecord}
    (isDecision : decision ∈ bundle.decisionRecords)
    (isNamed : decision.judgeDecisionRecordId ∈ item.judgeDecisionRecordIds) :
    ∃ policy, bundle.PassesLineage item policy := by
  obtain ⟨policy, isPolicy, own⟩ := valid.policy_of_decision isDecision
  have checked := valid.references policy isPolicy
  simp only [validatePolicyReferences, bind_eq_ok_iff, exists_unit_iff,
    checkEach_eq_ok_iff] at checked
  have passed := checked.1 item isItem
  rw [if_pos ⟨decision, List.mem_filter.mpr ⟨isDecision, decide_eq_true own.symm⟩, isNamed⟩]
    at passed
  exact ⟨policy, isPolicy, passed⟩

/-- A provenance reference that names a policy of the bundle was validated for it. -/
theorem provenance_passes (valid : PartsValid bundle) {item : JudgeDecisionProvenanceReference}
    (isItem : item ∈ bundle.provenanceReferences) {policy : JudgePolicy}
    (isPolicy : policy ∈ bundle.policies) (isNamed : policy.judgePolicyId ∈ item.judgePolicyIds) :
    bundle.PassesProvenance item policy := by
  have checked := valid.references policy isPolicy
  simp only [validatePolicyReferences, bind_eq_ok_iff, exists_unit_iff,
    checkEach_eq_ok_iff] at checked
  have passed := checked.2 item isItem
  rw [if_pos isNamed] at passed
  exact ⟨isPolicy, passed⟩

/-- A lineage reference passes for one policy at most. -/
theorem lineage_unique (valid : PartsValid bundle) {item : JudgeDecisionLineageReference}
    {policy other : JudgePolicy} (passes : bundle.PassesLineage item policy)
    (passesOther : bundle.PassesLineage item other) : other = policy := by
  obtain ⟨decisionId, isNamed⟩ := List.exists_mem_of_ne_nil _ item.decided.1
  obtain ⟨decision, isDecision, sameId⟩ := List.mem_map.mp (passes.named.2 isNamed)
  obtain ⟨again, isAgain, sameAgain⟩ := List.mem_map.mp (passesOther.named.2 isNamed)
  obtain ⟨present, own⟩ := List.mem_filter.mp isDecision
  obtain ⟨presentAgain, ownAgain⟩ := List.mem_filter.mp isAgain
  obtain rfl := List.inj_on_of_nodup_map valid.distinctDecisions present presentAgain
    (sameId.trans sameAgain.symm)
  exact valid.policy_unique passes.1 passesOther.1
    ((of_decide_eq_true ownAgain).symm.trans (of_decide_eq_true own))

/-- A provenance reference passes for one policy at most. -/
theorem provenance_unique (valid : PartsValid bundle) {item : JudgeDecisionProvenanceReference}
    {policy other : JudgePolicy} (passes : bundle.PassesProvenance item policy)
    (passesOther : bundle.PassesProvenance item other) : other = policy :=
  valid.policy_unique passes.1 passesOther.1
    (List.singleton_inj.mp (passesOther.named.1.symm.trans passes.named.1))

end PartsValid

/-! ## Resolution -/

theorem forall_allNamed_iff {property : NamedParts → Prop} :
    (∀ named ∈ bundle.allNamed, property named) ↔
      (∀ item ∈ bundle.policyCriterionReferences, property item.named) ∧
      (∀ item ∈ bundle.lineageReferences, property item.named) ∧
      (∀ item ∈ bundle.provenanceReferences, property item.named) ∧
      ∀ item ∈ bundle.reviewRequirements, property item.named ∧
        property item.lineageReference.named ∧ property item.provenanceReference.named := by
  simp only [allNamed, List.forall_mem_append, List.forall_mem_map, List.mem_flatMap,
    forall_exists_index, and_imp, and_assoc]
  refine and_congr_right fun _ => and_congr_right fun _ => and_congr_right fun _ => ?_
  exact ⟨fun all item isItem => by simpa using fun named => all named item isItem,
    fun all named item isItem => by
      have := all item isItem
      simp only [List.mem_cons, List.not_mem_nil, or_false]
      rintro (rfl | rfl | rfl)
      · exact this.1
      · exact this.2.1
      · exact this.2.2⟩

theorem Resolves.of_lineage {item : JudgeDecisionLineageReference} {policy : JudgePolicy}
    (passes : bundle.PassesLineage item policy) (unbundled : item.judgeAssessmentBundleIds = []) :
    bundle.Resolves item.named where
  policies := List.nil_subset _
  criteria := List.nil_subset _
  inputs := List.Subset.trans passes.named.1 map_filter_subset
  assessmentBundles := by
    rw [JudgeDecisionLineageReference.named, unbundled]
    exact List.nil_subset _
  decisions := List.Subset.trans passes.named.2 map_filter_subset

theorem Resolves.of_provenance {item : JudgeDecisionProvenanceReference} {policy : JudgePolicy}
    (passes : bundle.PassesProvenance item policy)
    (unbundled : item.judgeAssessmentBundleIds = []) : bundle.Resolves item.named where
  policies := by
    rw [JudgeDecisionProvenanceReference.named, passes.named.1]
    exact List.cons_subset.mpr ⟨List.mem_map_of_mem passes.1, List.nil_subset _⟩
  criteria := List.nil_subset _
  inputs := List.Subset.trans passes.named.2.1 map_filter_subset
  assessmentBundles := by
    rw [JudgeDecisionProvenanceReference.named, unbundled]
    exact List.nil_subset _
  decisions := List.Subset.trans passes.named.2.2 map_filter_subset

theorem NamesKnown.of_resolve (validated : validateJudgeDecisionBundle bundle = .ok ())
    (resolve : bundle.ReferencesResolve) : bundle.NamesKnown := by
  obtain ⟨criterionReferences, lineages, provenances, reviews⟩ :=
    forall_allNamed_iff.mp resolve.resolved
  have unbundled : ∀ {named : NamedParts}, bundle.Resolves named →
      named.assessmentBundles = [] := by
    intro named resolves
    have := resolves.assessmentBundles
    rw [assessmentBundles_eq_nil validated, List.map_nil] at this
    exact List.subset_nil.mp this
  refine ⟨?_, ?_, ?_, ?_⟩
  · exact fun item isItem => (criterionReferences item isItem).policies (List.mem_singleton_self _)
  · intro item isItem
    obtain ⟨decisionId, isNamed⟩ := List.exists_mem_of_ne_nil _ item.decided.1
    obtain ⟨decision, isDecision, rfl⟩ :=
      List.mem_map.mp ((lineages item isItem).decisions isNamed)
    exact ⟨⟨decision, isDecision, isNamed⟩, unbundled (lineages item isItem)⟩
  · intro item isItem
    obtain ⟨policyId, isNamed⟩ := List.exists_mem_of_ne_nil _ item.judged.1
    obtain ⟨policy, isPolicy, rfl⟩ :=
      List.mem_map.mp ((provenances item isItem).policies isNamed)
    exact ⟨⟨policy, isPolicy, isNamed⟩, unbundled (provenances item isItem)⟩
  · exact fun item isItem => (reviews item isItem).2

theorem ReferencesResolve.of_known (validated : validateJudgeDecisionBundle bundle = .ok ())
    (known : bundle.NamesKnown) : bundle.ReferencesResolve := by
  have valid := PartsValid.of_validate validated
  have lineage : ∀ item ∈ bundle.lineageReferences,
      ∃ policy, bundle.PassesLineage item policy := by
    intro item isItem
    obtain ⟨⟨decision, isDecision, isNamed⟩, -⟩ := known.lineages item isItem
    exact valid.lineage_passes isItem isDecision isNamed
  have provenance : ∀ item ∈ bundle.provenanceReferences,
      ∃ policy, bundle.PassesProvenance item policy := by
    intro item isItem
    obtain ⟨⟨policy, isPolicy, isNamed⟩, -⟩ := known.provenances item isItem
    exact ⟨policy, valid.provenance_passes isItem isPolicy isNamed⟩
  refine ⟨forall_allNamed_iff.mpr ⟨?_, ?_, ?_, ?_⟩, ?_, ?_⟩
  · intro item isItem
    have isKnown := known.criterionReferences item isItem
    obtain ⟨policy, isPolicy, own⟩ := List.mem_map.mp isKnown
    have ofCriterion := valid.criterion_known isItem isPolicy own
    exact ⟨List.cons_subset.mpr ⟨isKnown, List.nil_subset _⟩,
      List.cons_subset.mpr ⟨ofCriterion, List.nil_subset _⟩, List.nil_subset _,
      List.nil_subset _, List.nil_subset _⟩
  · intro item isItem
    obtain ⟨_, passes⟩ := lineage item isItem
    exact .of_lineage passes (known.lineages item isItem).2
  · intro item isItem
    obtain ⟨_, passes⟩ := provenance item isItem
    exact .of_provenance passes (known.provenances item isItem).2
  · exact fun item isItem => ⟨valid.review_resolves isItem, known.reviews item isItem⟩
  · intro item isItem
    obtain ⟨policy, passes⟩ := lineage item isItem
    exact ⟨policy, passes, fun _ passesOther => valid.lineage_unique passes passesOther⟩
  · intro item isItem
    obtain ⟨policy, passes⟩ := provenance item isItem
    exact ⟨policy, passes, fun _ passesOther => valid.provenance_unique passes passesOther⟩

end JudgeDecisionBundle

/-- Every reference of a validated bundle resolves exactly where each names something the bundle
holds, none names an assessment bundle and those inside review requirements resolve. -/
theorem referencesResolve_iff (bundle : JudgeDecisionBundle)
    (validated : validateJudgeDecisionBundle bundle = .ok ()) :
    bundle.ReferencesResolve ↔ bundle.NamesKnown :=
  ⟨.of_resolve validated, .of_known validated⟩

namespace Sample

/-- A decision without an outcome. -/
def unavailableDecision : JudgeDecisionRecord where
  judgeDecisionRecordId := 36
  judgePolicyId := 31
  judgePolicyVersion := version
  judgeInputReferenceIds := [33]
  decisionStatus := .unavailable
  reasonCodes := [.inputUnavailable]
  actorId := 102
  tenantId := 100
  organizationId := 101
  classification := .internal
  lineageId := 4
  lineageDigestReference := "lineage"
  policyRevision := 1
  recordedAt := 10
  referenced := decision.referenced

/-- The lineage of a decision on an input, with the root of the bundle. -/
def lineageOf (referenceId decisionId inputId : UUID) : JudgeDecisionLineageReference where
  judgeDecisionLineageReferenceId := referenceId
  rootLineageId := 4
  rootLineageDigestReference := "lineage"
  judgeDecisionRecordIds := [decisionId]
  judgeInputReferenceIds := [inputId]
  createdAt := 10
  decided := ⟨List.cons_ne_nil _ _, by simp [canonical]⟩
  referenced := ⟨List.cons_ne_nil _ _, by simp [canonical]⟩

/-- The provenance of the decision. -/
def unavailableProvenance : JudgeDecisionProvenanceReference where
  judgeDecisionProvenanceReferenceId := 38
  judgePolicyIds := [31]
  judgeInputReferenceIds := [33]
  judgeDecisionRecordIds := [36]
  policyRevision := 1
  recordedAt := 10
  judged := provenanceReference.judged
  referenced := provenanceReference.referenced
  decided := provenanceReference.decided

/-- A bundle of the decision, with some lineage references. -/
def unavailableBundle (lineages : List JudgeDecisionLineageReference)
    (given : lineages ≠ []) : JudgeDecisionBundle where
  judgeDecisionBundleId := 39
  bundleVersion := version
  policies := [policy]
  criteria := [criterion]
  policyCriterionReferences := [criterionReference]
  inputReferences := [inputReference]
  decisionRecords := [unavailableDecision]
  lineageReferences := lineages
  provenanceReferences := [unavailableProvenance]
  tenantId := 100
  organizationId := 101
  classification := .internal
  rootLineageId := 4
  rootLineageDigestReference := "lineage"
  createdAt := 11
  judged := bundle.judged
  decided := ⟨List.cons_ne_nil _ _, given, List.cons_ne_nil _ _⟩

/-- The bundle with the lineage of its decision. -/
def resolvedBundle : JudgeDecisionBundle :=
  unavailableBundle [lineageOf 37 36 33] (List.cons_ne_nil _ _)

/-- The bundle with a lineage of another decision on another input. -/
def orphanBundle : JudgeDecisionBundle :=
  unavailableBundle [lineageOf 37 98 99] (List.cons_ne_nil _ _)

end Sample

/-- The bundle with the lineage of its decision. -/
theorem referencesResolve_iff_resolved : Sample.resolvedBundle.ReferencesResolve := by
  refine (referencesResolve_iff Sample.resolvedBundle (by decide +kernel)).mpr ⟨?_, ?_, ?_, ?_⟩
  · decide
  · decide
  · decide
  · exact fun _ isReview => absurd isReview List.not_mem_nil

/-- A lineage of unknown decisions on unknown inputs is never validated. -/
theorem not_referencesResolve :
    validateJudgeDecisionBundle Sample.orphanBundle = .ok () ∧
      ¬ Sample.orphanBundle.ReferencesResolve := by
  refine ⟨by decide +kernel, fun resolve => ?_⟩
  have lineages := (JudgeDecisionBundle.forall_allNamed_iff.mp resolve.resolved).2.1
  have decisions := (lineages _ (List.mem_singleton_self _)).decisions
  exact absurd (decisions (List.mem_singleton_self _)) (by decide)

end PolicyOS.Judge
