import Mathlib.Data.Finset.Max
import PolicyOS.Execution.EvidenceGroups
import PolicyOS.Intelligence.Narrative

/-!
# Classification of a source bundle

A source bundle is compared with the references that represent their sources. A
reference that is merged into a source of a less restricted one is not compared, so
a bundle can be classified below it. Bundles are never below any evidence exactly
when every reference is matched by one that comes first in its own source.
-/

namespace PolicyOS.Intelligence

open Foundation Execution

variable {casefold : String → String} {plan : ExecutionPlan}
  {stepResults results : List StepResult} {graph : EvidenceGraph} {assembly : SynthesisAssembly}
  {startedAt completedAt : DateTime}

/-! ## Assemblies -/

theorem sourceIds_eq {items : List (String × EvidenceReference)}
    (groups : Groups casefold items graph) :
    sourceIds casefold graph.deduplicatedEvidence =
      .ok (graph.nodes.map (·.canonicalSourceId)) := by
  have ordered : sortedBy id (graph.nodes.map (·.canonicalSourceId)) =
      graph.nodes.map (·.canonicalSourceId) :=
    sortedBy_eq_self (groups.increasing.imp fun increases => le_of_lt increases)
  simp only [sourceIds, bind_eq_ok_iff, fromSynthesis_eq_ok_iff, pure_eq_ok_iff]
  exact ⟨_, groups.collected_ids, ordered⟩

/-- What an assembly is made of. -/
structure AssembledFrom (casefold : String → String) (stepResults : List StepResult)
    (assembly : SynthesisAssembly) : Prop where
  sameResults : ∀ result, result ∈ assembly.executionResult.stepResults ↔ result ∈ stepResults
  groups : Groups casefold (evidenceItems assembly.executionResult.stepResults)
    assembly.evidenceGraph
  finalOutput : assembly.executionResult.finalOutput = assembly.narrativeInput.modelDump
  resultEvidence : assembly.executionResult.evidence = assembly.evidenceGraph.deduplicatedEvidence
  inputEvidence : assembly.narrativeInput.evidence = assembly.evidenceGraph.deduplicatedEvidence
  citationIds : assembly.narrativeInput.citations.map (·.canonicalSourceId) =
    assembly.evidenceGraph.nodes.map (·.canonicalSourceId)
  stepIds : (assembly.narrativeInput.steps.map (·.stepId)).Perm
    (successfulStepIds assembly.executionResult)
  distinctSteps : (successfulStepIds assembly.executionResult).Nodup

/-- The parts of an assembly. -/
theorem assembledFrom
    (assembled : assemble casefold plan stepResults startedAt completedAt = .ok assembly) :
    AssembledFrom casefold stepResults assembly := by
  simp only [assemble, orderedResults, buildNarrativeInput, bind_eq_ok_iff, exists_unit_iff,
    rejectIf_eq_ok_iff, pure_eq_ok_iff, fromDomain_eq_ok_iff,
    ExecutionResult.validated_eq_ok_iff] at assembled
  obtain ⟨_, ⟨-, distinct, rfl⟩, graph, built, conflicts, -, citations, cited, narrative,
    ⟨steps, narrated, rfl⟩, -, executionResult, fields, rfl⟩ := assembled
  have narratedIds : steps.map (·.stepId) =
      (((stepResults.insertionSort notAfterByStep).insertionSort notAfterByStep).filter
        (·.status = .succeeded)).map (·.stepId) :=
    map_of_collectEach (fun computed => by
      simp only [narrativeStep, bind_eq_ok_iff, exists_unit_iff, pure_eq_ok_iff] at computed
      obtain ⟨_, -, -, rfl⟩ := computed
      rfl) narrated
  have sameResults : executionResult.stepResults = stepResults.insertionSort notAfterByStep :=
    congrArg ExecutionResultFields.stepResults fields
  refine
    { sameResults := fun result => by rw [sameResults, mem_sorted_iff]
      groups := groups_of_fromStepResults (sameResults.symm ▸ built)
      finalOutput := congrArg ExecutionResultFields.finalOutput fields
      resultEvidence := congrArg ExecutionResultFields.evidence fields
      inputEvidence := rfl
      citationIds := citation_ids cited
      stepIds := ?_
      distinctSteps := ?_ }
  · rw [narratedIds, successfulStepIds, sameResults]
    exact ((List.perm_insertionSort _ _).filter _).map _
  · rw [successfulStepIds, sameResults]
    exact (not_not.mp (not_or.mp distinct).1).sublist (List.filter_sublist.map _)

/-! ## Classification -/

/-- A reference that comes first among the references to its source. -/
structure FirstOfSource (casefold : String → String) (stepResults : List StepResult)
    (first : EvidenceReference) : Prop where
  listed : ∃ result ∈ stepResults, first ∈ result.evidence
  least : ∀ result ∈ stepResults, ∀ other ∈ result.evidence,
    canonicalSourceId casefold other = canonicalSourceId casefold first →
      evidenceKey casefold first ≤ evidenceKey casefold other

theorem classification_value_injective : Function.Injective DataClassification.value := by
  intro first second same
  cases first <;> cases second <;> first | rfl | exact absurd same (by decide)

theorem classification_of_key {first second : EvidenceReference}
    (same : evidenceKey casefold first = evidenceKey casefold second) :
    first.classification = second.classification := by
  simp only [evidenceKey, List.cons.injEq] at same
  exact classification_value_injective same.2.2.2.2.1

theorem requireEvidenceNotLower_eq_ok_iff {classification : DataClassification}
    {evidence : EvidenceReference} :
    requireEvidenceNotLower classification evidence = .ok () ↔
      notLower classification evidence.classification := by
  simp [requireEvidenceNotLower, requireNotLower, notLower]

/-- The parts of an assembly make a bundle of every classification that is not below the
deduplicated evidence. -/
theorem AssembledFrom.bundle (parts : AssembledFrom casefold stepResults assembly)
    (organizationId : UUID) {classification : DataClassification}
    (notBelow : ∀ evidence ∈ assembly.evidenceGraph.deduplicatedEvidence,
      notLower classification evidence.classification) :
    ∃ bundle, buildNarrativeSourceBundle casefold assembly.executionResult
      assembly.narrativeInput organizationId classification = .ok bundle ∧
        bundle.classification = classification := by
  have increasing := parts.groups.increasing
  have distinct : (assembly.evidenceGraph.nodes.map (·.canonicalSourceId)).Nodup :=
    increasing.imp fun increases => ne_of_lt increases
  have citations : sortedBy id (assembly.narrativeInput.citations.map (·.canonicalSourceId)) =
      assembly.evidenceGraph.nodes.map (·.canonicalSourceId) := by
    rw [parts.citationIds]
    exact sortedBy_eq_self (increasing.imp fun increases => le_of_lt increases)
  have distinctSteps : (sortedBy id (assembly.narrativeInput.steps.map (·.stepId))).Nodup :=
    perm_sortedBy.nodup_iff.mpr (parts.stepIds.nodup_iff.mpr parts.distinctSteps)
  have increasingSteps : (sortedBy id (assembly.narrativeInput.steps.map (·.stepId))).Pairwise
      (· < ·) := by
    refine (pairwise_sortedBy.and distinctSteps).imp fun ordered => ?_
    exact lt_of_le_of_ne ordered.1 ordered.2
  simp only [buildNarrativeSourceBundle, bind_eq_ok_iff, exists_unit_iff, rejectIf_eq_ok_iff,
    parts.inputEvidence, parts.resultEvidence, sourceIds_eq parts.groups, Except.ok.injEq,
    exists_eq_left', citations, checkEach_eq_ok_iff, requireEvidenceNotLower_eq_ok_iff, not_or,
    not_not, ne_eq, NarrativeSourceBundle.validated, buildChecked_eq_ok_iff]
  refine ⟨_, ⟨parts.finalOutput, ⟨distinct, trivial⟩, ⟨distinct, List.Subset.refl _⟩,
    ⟨distinctSteps, fun stepId listed => ?_⟩, notBelow, ?_, rfl⟩, rfl⟩
  · exact parts.stepIds.subset (mem_sortedBy.mp listed)
  · simp only [NarrativeSourceBundleFields.consistentIdentity, bind_eq_ok_iff, exists_unit_iff,
      rejectIf_eq_ok_iff, ne_eq, not_not, sortedSet_eq_self increasing,
      sortedSet_eq_self increasingSteps, and_self]

/-- A bundle is not below the evidence of its input. -/
theorem AssembledFrom.notBelow (parts : AssembledFrom casefold stepResults assembly)
    {organizationId : UUID} {classification : DataClassification} {bundle : NarrativeSourceBundle}
    (built : buildNarrativeSourceBundle casefold assembly.executionResult
      assembly.narrativeInput organizationId classification = .ok bundle) :
    ∀ evidence ∈ assembly.evidenceGraph.deduplicatedEvidence,
      notLower bundle.classification evidence.classification := by
  simp only [buildNarrativeSourceBundle, bind_eq_ok_iff, exists_unit_iff, checkEach_eq_ok_iff,
    requireEvidenceNotLower_eq_ok_iff, parts.inputEvidence, NarrativeSourceBundle.validated,
    buildChecked_eq_ok_iff] at built
  obtain ⟨-, _, -, _, -, -, -, -, notBelow, _, rfl⟩ := built
  exact notBelow

theorem exists_most_restricted {evidence : List EvidenceReference} (present : evidence ≠ []) :
    ∃ top ∈ evidence, ∀ other ∈ evidence, other.classification.rank ≤ top.classification.rank := by
  have nonempty : evidence.toFinset.Nonempty := List.toFinset_nonempty_iff evidence |>.mpr present
  obtain ⟨top, isTop, highest⟩ :=
    evidence.toFinset.exists_max_image (·.classification.rank) nonempty
  exact ⟨top, List.mem_toFinset.mp isTop, fun other isOther =>
    highest other (List.mem_toFinset.mpr isOther)⟩

/-- The bundles of an assembly are never below any reference of its step results exactly
when every reference is matched by one, at least as restricted, that comes first in its
own source. -/
theorem bundles_notLower_iff
    (assembled : assemble casefold plan stepResults startedAt completedAt = .ok assembly) :
    (∀ organizationId classification bundle, buildNarrativeSourceBundle casefold
        assembly.executionResult assembly.narrativeInput organizationId classification =
          .ok bundle →
      ∀ result ∈ stepResults, ∀ evidence ∈ result.evidence,
        notLower bundle.classification evidence.classification) ↔
    ∀ result ∈ stepResults, ∀ evidence ∈ result.evidence, ∃ first,
      FirstOfSource casefold stepResults first ∧ notLower first.classification
        evidence.classification := by
  have parts := assembledFrom assembled
  have items : ∀ {result evidence}, result ∈ stepResults → evidence ∈ result.evidence →
      ∃ item ∈ evidenceItems assembly.executionResult.stepResults, item.2 = evidence :=
    fun isResult present => exists_evidenceItem_iff.mpr
      ⟨_, (parts.sameResults _).mpr isResult, present⟩
  constructor
  · -- The least classification that is accepted is that of a representative.
    intro notBelow result isResult evidence present
    obtain ⟨item, isItem, rfl⟩ := items isResult present
    obtain ⟨node, isNode, -, -⟩ := parts.groups.covers item isItem
    obtain ⟨representative, represents⟩ := parts.groups.represented node isNode
    obtain ⟨top, isTop, highest⟩ := exists_most_restricted
      (List.ne_nil_of_mem (Groups.mem_deduplicated isNode represents))
    obtain ⟨bundle, built, classified⟩ := parts.bundle 0 highest
    obtain ⟨source, isSource, ofSource⟩ := parts.groups.exists_represents isTop
    refine ⟨top, ⟨?_, fun other isOther reference referenced same => ?_⟩, ?_⟩
    · obtain ⟨_, listed, rfl⟩ := parts.groups.within source isSource top
        (List.mem_of_mem_head? ofSource.isHead)
      obtain ⟨own, isOwn, referenced⟩ := exists_evidenceItem_iff.mp ⟨_, listed, rfl⟩
      exact ⟨own, (parts.sameResults own).mp isOwn, referenced⟩
    · obtain ⟨item, isItem, rfl⟩ := items isOther referenced
      exact ofSource.least _ (parts.groups.mem_of_sameSource isSource isItem
        (same.trans ofSource.sameSource))
    · rw [← classified]
      exact notBelow 0 _ bundle built result isResult _ present
  · intro matched organizationId classification bundle built result isResult evidence present
    obtain ⟨first, ⟨⟨own, isOwn, listed⟩, least⟩, notBelow⟩ := matched result isResult evidence
      present
    obtain ⟨item, isItem, rfl⟩ := items isOwn listed
    obtain ⟨node, isNode, sameSource, grouped⟩ := parts.groups.covers item isItem
    obtain ⟨representative, represents⟩ := parts.groups.represented node isNode
    obtain ⟨_, isHead, rfl⟩ := parts.groups.within node isNode representative
      (List.mem_of_mem_head? represents.isHead)
    obtain ⟨source, isSource, referenced⟩ := exists_evidenceItem_iff.mp ⟨_, isHead, rfl⟩
    have sameKey := le_antisymm (represents.least _ grouped) (least source
      ((parts.sameResults source).mp isSource) _ referenced
      (represents.sameSource.trans sameSource.symm))
    have compared := parts.notBelow built _ (Groups.mem_deduplicated isNode represents)
    rw [classification_of_key sameKey] at compared
    exact notBelow.trans compared

namespace Sample

/-- A plan of one search. -/
def searchPlan : ExecutionPlan where
  planId := 1
  executionId := 2
  version := 1
  objective := "Review the contract"
  steps :=
    [{ stepId := "search"
       sequence := 0
       dependencies := []
       executionId := 2
       kind := .knowledgeQuery
       instruction := "Find the contract"
       target := "legal"
       classification := .public }]
  createdAt := 0
  plannerName := "planner"
  classification := .public

/-- A contract in the register, as everyone may see it. -/
def openRecord : EvidenceReference where
  source := "Register"
  recordId := "contract-1"
  classification := .public

/-- The same contract under its title, which is confidential. -/
def titledRecord : EvidenceReference :=
  { openRecord with title := some "Settlement", classification := .confidential }

/-- The search that found these references. -/
def search (evidence : List EvidenceReference) : StepResult where
  stepId := "search"
  status := .succeeded
  startedAt := some 0
  completedAt := some 1
  evidence := evidence
  consistent := rfl

/-- The assembly of the search. -/
def assembled (evidence : List EvidenceReference) : Except SynthesisError SynthesisAssembly :=
  assemble String.toLower searchPlan [search evidence] 0 1

end Sample

/-- With one reference only, the bundles are never below it. -/
theorem bundles_notLower_titled :
    ∃ assembly, Sample.assembled [Sample.titledRecord] = .ok assembly ∧
      ∀ bundle, buildNarrativeSourceBundle String.toLower assembly.executionResult
          assembly.narrativeInput 3 .confidential = .ok bundle →
        notLower bundle.classification .confidential := by
  have accepted : (Sample.assembled [Sample.titledRecord]).toOption.isSome := by decide +kernel
  obtain ⟨assembly, isAssembly⟩ := Option.isSome_iff_exists.mp accepted
  have assembled := eq_ok_of_mem_toOption isAssembly
  refine ⟨assembly, assembled, fun bundle built => ?_⟩
  refine (bundles_notLower_iff assembled).mpr (fun result isResult evidence present => ?_) 3 _
    bundle built (Sample.search [Sample.titledRecord]) (List.mem_singleton.mpr rfl)
    Sample.titledRecord (List.mem_singleton.mpr rfl)
  rw [List.mem_singleton.mp isResult] at present
  rw [List.mem_singleton.mp present]
  refine ⟨Sample.titledRecord, ⟨⟨_, List.mem_singleton.mpr rfl, List.mem_singleton.mpr rfl⟩,
    fun other isOther reference referenced _ => ?_⟩, le_rfl⟩
  rw [List.mem_singleton.mp isOther] at referenced
  rw [List.mem_singleton.mp referenced]

/-- A public bundle is built of a confidential reference merged with a public one. -/
theorem bundle_below_evidence :
    ∃ assembly, Sample.assembled [Sample.openRecord, Sample.titledRecord] = .ok assembly ∧
      ∃ bundle, buildNarrativeSourceBundle String.toLower assembly.executionResult
          assembly.narrativeInput 3 .public = .ok bundle ∧
        ¬ notLower bundle.classification Sample.titledRecord.classification := by
  have public_ : ((Sample.assembled [Sample.openRecord, Sample.titledRecord]).toOption.bind
      fun assembly => (buildNarrativeSourceBundle String.toLower assembly.executionResult
        assembly.narrativeInput 3 .public).toOption.map (·.classification)) = some .public := by
    decide +kernel
  obtain ⟨assembly, isAssembly, built⟩ := Option.bind_eq_some_iff.mp public_
  obtain ⟨bundle, isBundle, classified⟩ := Option.map_eq_some_iff.mp built
  refine ⟨assembly, eq_ok_of_mem_toOption isAssembly, bundle, eq_ok_of_mem_toOption isBundle, ?_⟩
  rw [classified]
  decide

end PolicyOS.Intelligence
