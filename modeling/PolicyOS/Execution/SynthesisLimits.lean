import PolicyOS.Execution.RuntimeContract
import PolicyOS.Execution.PresentedNarrative

/-!
# The limits of a synthesis

The results of steps are bounded one by one, and the narrative made of them is bounded again as
the output of the execution: its collections are shorter than the number of steps and sources
that are let through, it nests the outputs of the steps, and it repeats texts nobody looked at.
-/

namespace PolicyOS.Execution

open Foundation

variable {casefold : String → String} {plan : ExecutionPlan}
  {stepResults results : List StepResult} {startedAt completedAt : DateTime}

/-! ## The serialized narrative -/

theorem admitted_array_iff {depth : Nat} {items : List JsonValue} :
    Admitted depth (.array items) ↔ depth ≤ maxNesting ∧ items.length ≤ maxCollectionItems ∧
      ∀ item ∈ items, Admitted (depth + 1) item := by
  rw [Admitted, admittedItems_iff]

theorem admitted_textArray_iff {depth : Nat} (shallow : depth + 1 ≤ maxNesting)
    {values : List String} :
    Admitted depth (textArray values) ↔
      values.length ≤ maxCollectionItems ∧ ∀ value ∈ values, secretValue value = false := by
  have within : depth ≤ maxNesting := by omega
  simp [textArray, admitted_array_iff, Admitted, within, shallow]

theorem admitted_optionalText_iff {depth : Nat} (shallow : depth ≤ maxNesting)
    {text : Option String} :
    Admitted depth (optionalText text) ↔ ∀ value ∈ text, secretValue value = false := by
  cases text <;> simp [optionalText, Admitted, shallow]

/-- The keys of a serialized narrative. -/
def narrativeKeys : List String :=
  ["steps", "evidence", "citations", "conflicts", "confidence", "warnings", "step_id", "output",
    "citation_ordinals", "ordinal", "canonical_source_id", "label", "source", "record_id", "title",
    "uri", "classification", "conflict_code", "fields", "evidence_count", "requires_review",
    "level", "score", "reason_codes"]

/-- The texts a narrative is serialized with, whatever it tells. -/
def narrativeWords : List String :=
  ["public", "internal", "confidential", "restricted", "evidence_metadata_conflict",
    "classification", "title", "uri", "unknown", "low", "medium", "high", "no_evidence",
    "evidence_available", "citations_complete", "citations_incomplete", "evidence_conflicts",
    "step_failures", "evidence_unavailable", "incomplete_citations",
    "evidence_conflicts_require_review", "execution_contains_non_success_steps"]

theorem plain_narrativeKeys :
    ∀ key ∈ narrativeKeys, safeKey key = true ∧ secretKey key = false := by
  decide +kernel

theorem plain_narrativeWords : ∀ word ∈ narrativeWords, secretValue word = false := by
  decide +kernel

/-- A serialized step is admitted where its output is, three levels down. -/
theorem admitted_narrativeStep_iff {step : NarrativeStep} :
    Admitted 2 step.modelDump ↔ secretValue step.stepId = false ∧ Admitted 3 step.output ∧
      step.citationOrdinals.length ≤ maxCollectionItems := by
  have keys := plain_narrativeKeys
  simp only [narrativeKeys, List.forall_mem_cons] at keys
  have ordinals : Admitted 3 (.array (step.citationOrdinals.map fun ordinal =>
      .integer (ordinal : Int))) ↔ step.citationOrdinals.length ≤ maxCollectionItems := by
    rw [admitted_array_iff, List.length_map, List.forall_mem_map]
    simp [Admitted, maxNesting]
  simp only [NarrativeStep.modelDump, Admitted.eq_7, AdmittedMembers, ordinals, keys]
  simp [Admitted, maxNesting, maxCollectionItems]

theorem admitted_citation_iff {citation : Citation} :
    Admitted 2 citation.modelDump ↔
      secretValue citation.canonicalSourceId = false ∧ secretValue citation.label = false := by
  have keys := plain_narrativeKeys
  simp only [narrativeKeys, List.forall_mem_cons] at keys
  simp [Citation.modelDump, Admitted, AdmittedMembers, keys, maxNesting, maxCollectionItems]

/-- A serialized reference is admitted where its texts do not look like secrets. -/
theorem admitted_evidence_iff {evidence : EvidenceReference} :
    Admitted 2 evidence.modelDump ↔
      secretValue evidence.source = false ∧ secretValue evidence.recordId = false ∧
        (∀ title ∈ evidence.title, secretValue title = false) ∧
          ∀ uri ∈ evidence.uri, secretValue uri = false := by
  have keys := plain_narrativeKeys
  simp only [narrativeKeys, List.forall_mem_cons] at keys
  have plain : secretValue evidence.classification.value = false :=
    plain_narrativeWords _
      (by cases evidence.classification <;> simp [narrativeWords, DataClassification.value])
  have deep : 3 ≤ maxNesting := by decide
  simp only [EvidenceReference.modelDump, Admitted, AdmittedMembers, keys, plain,
    admitted_optionalText_iff deep, deep]
  simp [maxNesting, maxCollectionItems]

/-- A serialized conflict is admitted where its source does not look like a secret. -/
theorem admitted_conflict_iff {node : EvidenceNode} {conflict : EvidenceConflict}
    (isConflict : conflictOf node = some conflict) :
    Admitted 2 conflict.modelDump ↔ secretValue node.canonicalSourceId = false := by
  have keys := plain_narrativeKeys
  simp only [narrativeKeys, List.forall_mem_cons] at keys
  have plain : secretValue "evidence_metadata_conflict" = false :=
    plain_narrativeWords _ (by simp [narrativeWords])
  have named : ∀ field ∈ ["classification", "title", "uri"], secretValue field = false :=
    fun field isField => plain_narrativeWords field
      ((by simp [narrativeWords] : ["classification", "title", "uri"] ⊆ narrativeWords) isField)
  have fields : (differingFields node).length ≤ maxCollectionItems ∧
      ∀ field ∈ differingFields node, secretValue field = false := by
    have sub : (differingFields node).Sublist ["classification", "title", "uri"] := by
      unfold differingFields
      split <;> split <;> split <;> decide
    refine ⟨sub.length_le.trans (by decide), fun field isField => named field (sub.subset isField)⟩
  rw [conflictOf] at isConflict
  split at isConflict
  · cases isConflict
  · cases isConflict
    simp only [EvidenceConflict.modelDump, Admitted, AdmittedMembers, keys, plain,
      @admitted_textArray_iff 3 (by decide), fields.1]
    simp only [maxNesting, maxCollectionItems]
    simpa using fun _ => fields.2

variable {conflicts : List EvidenceConflict}

/-- The serialized confidence is admitted. -/
theorem admitted_confidence {graph : EvidenceGraph} {failedCount : Nat} :
    Admitted 1 (evaluateConfidence casefold graph conflicts failedCount).modelDump := by
  have keys := plain_narrativeKeys
  simp only [narrativeKeys, List.forall_mem_cons] at keys
  have level : ∀ level : ConfidenceLevel, secretValue level.value = false := by
    exact fun level => plain_narrativeWords _
      (by cases level <;> simp [narrativeWords, ConfidenceLevel.value])
  have named : ∀ code ∈ ["no_evidence", "evidence_available", "citations_complete",
      "citations_incomplete", "evidence_conflicts", "step_failures"],
      secretValue code = false :=
    fun code isCode => plain_narrativeWords code ((by simp [narrativeWords] :
      ["no_evidence", "evidence_available", "citations_complete", "citations_incomplete",
        "evidence_conflicts", "step_failures"] ⊆ narrativeWords) isCode)
  have codes : (evaluateConfidence casefold graph conflicts failedCount).reasonCodes.length ≤
        maxCollectionItems ∧
      ∀ code ∈ (evaluateConfidence casefold graph conflicts failedCount).reasonCodes,
        secretValue code = false := by
    have sub : (evaluateConfidence casefold graph conflicts failedCount).reasonCodes.Sublist
        ["no_evidence", "evidence_available", "citations_complete", "citations_incomplete",
          "evidence_conflicts", "step_failures"] := by
      unfold evaluateConfidence
      by_cases empty : graph.nodes.length = 0
      · simp only [empty, if_true]
        decide
      · simp only [if_neg empty]
        by_cases agreeing : conflicts = [] <;> by_cases successful : failedCount = 0 <;>
          simp only [agreeing, successful, if_true, if_false] <;> split <;> decide
    exact ⟨sub.length_le.trans (by decide), fun code isCode => named code (sub.subset isCode)⟩
  simp only [ConfidenceAssessment.modelDump, Admitted, AdmittedMembers, keys, level,
    @admitted_textArray_iff 2 (by decide), codes.1]
  simp only [maxNesting, maxCollectionItems]
  simpa using codes.2

/-- The warnings are few, and none looks like a secret. -/
theorem warnings_plain {graph : EvidenceGraph} :
    (buildWarnings results graph conflicts).length ≤ maxCollectionItems ∧
      ∀ warning ∈ buildWarnings results graph conflicts, secretValue warning = false := by
  have named : ∀ warning ∈ ["evidence_unavailable", "incomplete_citations",
      "evidence_conflicts_require_review", "execution_contains_non_success_steps"],
      secretValue warning = false :=
    fun warning isWarning => plain_narrativeWords warning ((by simp [narrativeWords] :
      ["evidence_unavailable", "incomplete_citations", "evidence_conflicts_require_review",
        "execution_contains_non_success_steps"] ⊆ narrativeWords) isWarning)
  have sub : (buildWarnings results graph conflicts).Sublist ["evidence_unavailable",
      "incomplete_citations", "evidence_conflicts_require_review",
      "execution_contains_non_success_steps"] := by
    unfold buildWarnings
    split <;> split <;> split <;> split <;> decide
  exact ⟨sub.length_le.trans (by decide), fun warning isWarning => named warning
    (sub.subset isWarning)⟩

/-- The narrative is admitted where its parts are, but for its confidence and its warnings. -/
theorem admitted_narrative_iff {steps : List NarrativeStep} {evidence : List EvidenceReference}
    {citations : List Citation} {graph : EvidenceGraph} {failedCount : Nat} :
    Admitted 0 (NarrativeInput.modelDump
      { steps, evidence, citations, conflicts
        confidence := evaluateConfidence casefold graph conflicts failedCount
        warnings := buildWarnings results graph conflicts }) ↔
      (steps.length ≤ maxCollectionItems ∧ ∀ step ∈ steps, Admitted 2 step.modelDump) ∧
      (evidence.length ≤ maxCollectionItems ∧ ∀ one ∈ evidence, Admitted 2 one.modelDump) ∧
      (citations.length ≤ maxCollectionItems ∧ ∀ one ∈ citations, Admitted 2 one.modelDump) ∧
      conflicts.length ≤ maxCollectionItems ∧ ∀ one ∈ conflicts, Admitted 2 one.modelDump := by
  have keys := plain_narrativeKeys
  simp only [narrativeKeys, List.forall_mem_cons] at keys
  have warned : Admitted 1 (textArray (buildWarnings results graph conflicts)) :=
    (admitted_textArray_iff (by decide)).mpr warnings_plain
  have confident :
      Admitted 1 (evaluateConfidence casefold graph conflicts failedCount).modelDump :=
    admitted_confidence
  simp only [NarrativeInput.modelDump, Admitted.eq_7, AdmittedMembers, admitted_array_iff,
    List.length_map, List.forall_mem_map, keys, warned]
  simp [maxNesting, maxCollectionItems, confident]

/-! ## Presentable results -/

/-- What the results of an execution must meet beyond their own limits to be presented: the
sources are identified and labelled briefly, there are not too many of them or of successful
steps, no output nests too deeply and no text looks like a secret where it is repeated. -/
structure Presentable (casefold : String → String) (results : List StepResult) : Prop where
  identities : ∀ source ∈ sources casefold results, source.length ≤ 701
  labels : ∀ one ∈ (presentedGraph casefold results).deduplicatedEvidence,
    (citationLabel one).length ≤ 1000
  fewSteps : (succeededResults results).length ≤ maxCollectionItems
  fewSources : (sources casefold results).length ≤ maxCollectionItems
  steps : ∀ result ∈ results, result.status = .succeeded →
    secretValue result.stepId = false ∧ Admitted 3 result.output
  plainSources : ∀ source ∈ sources casefold results, secretValue source = false
  plainEvidence : ∀ one ∈ (presentedGraph casefold results).deduplicatedEvidence,
    secretValue one.source = false ∧ secretValue one.recordId = false ∧
      (∀ title ∈ one.title, secretValue title = false) ∧
      (∀ uri ∈ one.uri, secretValue uri = false) ∧ secretValue (citationLabel one) = false
  small : (presentedNarrative casefold results).modelDump.size ≤ maxOutputBytes

theorem presentedNode_head {source : String} (isSource : source ∈ sources casefold results) :
    ∃ first, (presentedNode casefold results source).evidence.head? = some first := by
  rw [sources, mem_sortedSet, List.mem_map] at isSource
  obtain ⟨item, isItem, rfl⟩ := isSource
  have present : item.2.2 ∈ (presentedNode casefold results item.1).evidence :=
    List.mem_map_of_mem (mem_sortedBy.mpr
      (List.mem_map_of_mem (List.mem_filter.mpr ⟨isItem, decide_eq_true rfl⟩)))
  exact ⟨_, List.head?_eq_some_head (List.ne_nil_of_mem present)⟩

theorem deduplicatedEvidence_length :
    (presentedGraph casefold results).deduplicatedEvidence.length =
      (sources casefold results).length := by
  rw [EvidenceGraph.deduplicatedEvidence, presentedGraph, List.filterMap_map,
    List.length_filterMap_eq_countP, List.countP_eq_length]
  intro source isSource
  obtain ⟨first, isFirst⟩ := presentedNode_head isSource
  simp [isFirst]

/-- A step cites each citation once. -/
theorem citationOrdinals_length_le {citations : List Citation} {result : StepResult} :
    (presentedStep casefold citations result).citationOrdinals.length ≤ citations.length := by
  have cited : (presentedStep casefold citations result).citationOrdinals ⊆
      citations.map (·.ordinal) := by
    intro ordinal isOrdinal
    rw [presentedStep, mem_sortedSet, presentedOrdinals, List.mem_filterMap] at isOrdinal
    obtain ⟨one, -, isFound⟩ := isOrdinal
    obtain ⟨citation, found, rfl⟩ := Option.map_eq_some_iff.mp isFound
    exact List.mem_map_of_mem (List.mem_reverse.mp (List.mem_of_find?_eq_some found))
  have distinct : (presentedStep casefold citations result).citationOrdinals.Nodup :=
    nodup_sortedSet
  exact (List.subperm_of_subset distinct cited).length_le.trans_eq (List.length_map _)

/-- The citations are admitted where no source and no label looks like a secret. -/
theorem admitted_citations_iff :
    (∀ citation ∈ presentedCitations (presentedGraph casefold results),
        Admitted 2 citation.modelDump) ↔
      (∀ source ∈ sources casefold results, secretValue source = false) ∧
        ∀ one ∈ (presentedGraph casefold results).deduplicatedEvidence,
          secretValue (citationLabel one) = false := by
  have labelled : (∀ one ∈ (presentedGraph casefold results).deduplicatedEvidence,
      secretValue (citationLabel one) = false) ↔ ∀ source ∈ sources casefold results,
        secretValue (((presentedNode casefold results source).evidence.head?.map
          citationLabel).getD "") = false := by
    rw [EvidenceGraph.deduplicatedEvidence, presentedGraph, List.filterMap_map,
      List.forall_mem_filterMap]
    refine forall₂_congr fun source isSource => ?_
    obtain ⟨first, isFirst⟩ := presentedNode_head isSource
    simp [isFirst]
  rw [presentedCitations, List.forall_mem_map, labelled, ← forall₂_and]
  simp only [admitted_citation_iff, presentedCitation]
  rw [forall_mem_zipIdx_iff (P := fun node : EvidenceNode => secretValue node.canonicalSourceId = false ∧
    secretValue ((node.evidence.head?.map citationLabel).getD "") = false)]
  rw [presentedGraph, List.forall_mem_map]
  exact Iff.rfl

/-- The narrative of results is admitted where the results can be presented. -/
theorem admitted_presentedNarrative_iff :
    Admitted 0 (presentedNarrative casefold results).modelDump ↔
      ((succeededResults results).length ≤ maxCollectionItems ∧
        ∀ result ∈ results, result.status = .succeeded →
          secretValue result.stepId = false ∧ Admitted 3 result.output) ∧
      (sources casefold results).length ≤ maxCollectionItems ∧
      (∀ source ∈ sources casefold results, secretValue source = false) ∧
      ∀ one ∈ (presentedGraph casefold results).deduplicatedEvidence,
        secretValue one.source = false ∧ secretValue one.recordId = false ∧
          (∀ title ∈ one.title, secretValue title = false) ∧
          (∀ uri ∈ one.uri, secretValue uri = false) ∧
          secretValue (citationLabel one) = false := by
  have cited : (presentedCitations (presentedGraph casefold results)).length =
      (sources casefold results).length := by
    rw [← presentedCitations_sources, List.length_map]
  have nodes : (presentedGraph casefold results).nodes.length =
      (sources casefold results).length := by
    rw [← presentedGraph_sources, List.length_map]
  have conflicting : ((presentedGraph casefold results).nodes.filterMap conflictOf).length ≤
      (sources casefold results).length := nodes ▸ List.length_filterMap_le _ _
  have conflictsPlain (plain : ∀ source ∈ sources casefold results, secretValue source = false) :
      ∀ one ∈ (presentedGraph casefold results).nodes.filterMap conflictOf,
        Admitted 2 one.modelDump := by
    intro one isConflict
    obtain ⟨node, isNode, same⟩ := List.mem_filterMap.mp isConflict
    refine (admitted_conflict_iff same).mpr (plain _ ?_)
    rw [← presentedGraph_sources]
    exact List.mem_map_of_mem isNode
  have stepsPlain (few : (sources casefold results).length ≤ maxCollectionItems) :
      (∀ step ∈ (succeededResults results).map (presentedStep casefold
          (presentedCitations (presentedGraph casefold results))), Admitted 2 step.modelDump) ↔
        ∀ result ∈ results, result.status = .succeeded →
          secretValue result.stepId = false ∧ Admitted 3 result.output := by
    have short (result : StepResult) := (@citationOrdinals_length_le casefold
      (presentedCitations (presentedGraph casefold results)) result).trans (cited.trans_le few)
    simp only [List.forall_mem_map, succeededResults, List.mem_filter, mem_sorted_iff,
      decide_eq_true_eq, admitted_narrativeStep_iff, short, and_true, and_imp]
    exact Iff.rfl
  rw [presentedNarrative, admitted_narrative_iff, List.length_map, cited,
    deduplicatedEvidence_length, admitted_citations_iff]
  simp only [admitted_evidence_iff]
  constructor
  · rintro ⟨⟨fewSteps, steps⟩, ⟨few, evidence⟩, ⟨-, plain, labels⟩, -⟩
    refine ⟨⟨fewSteps, (stepsPlain few).mp steps⟩, few, plain, fun one isOne => ?_⟩
    obtain ⟨source, recordId, title, uri⟩ := evidence one isOne
    exact ⟨source, recordId, title, uri, labels one isOne⟩
  · rintro ⟨⟨fewSteps, steps⟩, few, plain, evidence⟩
    refine ⟨⟨fewSteps, (stepsPlain few).mpr steps⟩, ⟨few, fun one isOne => ?_⟩,
      ⟨few, plain, fun one isOne => ?_⟩, conflicting.trans few, conflictsPlain plain⟩
    · obtain ⟨source, recordId, title, uri, -⟩ := evidence one isOne
      exact ⟨source, recordId, title, uri⟩
    · exact (evidence one isOne).2.2.2.2

/-! ## Accepted syntheses -/

/-- The status the results determine fits them. -/
theorem consistentResult_of_executionStatus {fields : ExecutionResultFields}
    (distinct : (fields.stepResults.map (·.stepId)).Nodup)
    (ended : fields.completedAt = some completedAt) (ordered : fields.startedAt ≤ completedAt)
    (determined : executionStatus plan fields.stepResults = (fields.status, fields.error)) :
    fields.consistentResult = .ok () := by
  simp only [ExecutionResultFields.consistentResult, bind_eq_ok_iff, exists_unit_iff,
    rejectIf_eq_ok_iff, ended]
  refine ⟨not_not.mpr distinct, by simp, by simpa using ordered, ?_, ?_⟩ <;>
    rw [executionStatus] at determined <;> split_ifs at determined with late failing unsuccessful <;>
    obtain ⟨isStatus, isError⟩ := Prod.mk.inj determined <;> rw [← isStatus, ← isError] <;> simp
  simpa using unsuccessful

namespace Sample

/-- A result with an output and what it is read from. -/
def collected (stepId : String) (output : JsonValue) : StepResult :=
  { success stepId 1 4 (by decide) with
    output := output
    evidence :=
      [{ source := "registry"
         recordId := "act-1"
         title := some "Contracts act"
         classification := .internal }]
    consistent := (success stepId 1 4 (by decide)).consistent }

/-- The results of the steps of the sample plan. -/
def resultsWith (output : JsonValue) : List StepResult :=
  [collected "review" .null, collected "collect" output, success "report" 4 6 (by decide)]

/-- Four nested arrays. -/
def nested : JsonValue := .array [.array [.array [.array []]]]

end Sample

end PolicyOS.Execution
