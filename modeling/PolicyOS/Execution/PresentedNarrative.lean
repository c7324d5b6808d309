import PolicyOS.Execution.EvidenceGroups

/-!
# The narrative the results determine

The assembler builds its graph, its citations and its narrative step by step, and each of them
may be refused. What it builds when nothing is refused is a function of the results alone, and
each step is refused by a bound on this function.
-/

namespace PolicyOS.Execution

open Foundation

section Presented

variable (casefold : String → String)

/-! ## What the results determine -/

/-- The identity of a source, whether or not it is complete. -/
def sourceOf (evidence : EvidenceReference) : String :=
  casefold (strip evidence.source) ++ ":" ++ casefold (strip evidence.recordId)

/-- The identity of a source is complete. -/
def Identified (evidence : EvidenceReference) : Prop :=
  casefold (strip evidence.source) ≠ "" ∧ casefold (strip evidence.recordId) ≠ ""

instance (evidence : EvidenceReference) : Decidable (Identified casefold evidence) :=
  inferInstanceAs (Decidable (_ ∧ _))

/-- The references of results with their sources and their steps. -/
def labelledItems (results : List StepResult) : List (String × String × EvidenceReference) :=
  (evidenceItems results).map fun item => (sourceOf casefold item.2, item)

/-- The sources of results, in order. -/
def sources (results : List StepResult) : List String :=
  sortedSet ((labelledItems casefold results).map (·.1))

/-- The references to a source. -/
def presentedNode (results : List StepResult) (source : String) : EvidenceNode :=
  let ordered := orderedItems casefold (labelledItems casefold results) source
  { canonicalSourceId := source
    evidence := ordered.map (·.2)
    stepIds := sortedSet (ordered.map (·.1)) }

/-- The graph of results. -/
def presentedGraph (results : List StepResult) : EvidenceGraph where
  nodes := (sources casefold results).map (presentedNode casefold results)

/-- The citation of a numbered node. -/
def presentedCitation (numbered : EvidenceNode × Nat) : Citation where
  ordinal := numbered.2 + 1
  canonicalSourceId := numbered.1.canonicalSourceId
  label := (numbered.1.evidence.head?.map citationLabel).getD ""

/-- The citations of a graph. -/
def presentedCitations (graph : EvidenceGraph) : List Citation :=
  graph.nodes.zipIdx.map presentedCitation

/-- The ordinals of the citations of references. -/
def presentedOrdinals (citations : List Citation) (evidence : List EvidenceReference) : List Nat :=
  evidence.filterMap fun one =>
    (citations.reverse.find? (·.canonicalSourceId = sourceOf casefold one)).map (·.ordinal)

/-- A successful step in the narrative. -/
def presentedStep (citations : List Citation) (result : StepResult) : NarrativeStep where
  stepId := result.stepId
  output := result.output
  citationOrdinals := sortedSet (presentedOrdinals casefold citations result.evidence)

/-- The successful results, by their steps. -/
def succeededResults (results : List StepResult) : List StepResult :=
  (results.insertionSort notAfterByStep).filter (·.status = .succeeded)

/-- The narrative of results. -/
def presentedNarrative (results : List StepResult) : NarrativeInput :=
  let graph := presentedGraph casefold results
  let conflicts := graph.nodes.filterMap conflictOf
  let citations := presentedCitations graph
  let failedCount := results.countP (·.status ≠ .succeeded)
  { steps := (succeededResults results).map (presentedStep casefold citations)
    evidence := graph.deduplicatedEvidence
    citations := citations
    conflicts := conflicts
    confidence := evaluateConfidence casefold graph conflicts failedCount
    warnings := buildWarnings results graph conflicts }

end Presented

variable {casefold : String → String} {results : List StepResult} {graph : EvidenceGraph}

/-! ## The parts that are refused -/

theorem canonicalSourceId_eq_ok_iff {evidence : EvidenceReference} {source : String} :
    canonicalSourceId casefold evidence = .ok source ↔
      Identified casefold evidence ∧ sourceOf casefold evidence = source := by
  simp only [canonicalSourceId, Identified, sourceOf, bind_eq_ok_iff, exists_unit_iff,
    rejectIf_eq_ok_iff, not_or, pure_eq_ok_iff]

theorem collect_labelledItems
    (identified : ∀ result ∈ results, ∀ evidence ∈ result.evidence, Identified casefold evidence) :
    collectEach (Execution.identified casefold) (evidenceItems results) =
      .ok (labelledItems casefold results) := by
  refine collectEach_eq_ok_iff.mpr (List.forall₂_map_right_iff.mpr ?_)
  refine List.forall₂_same.mpr fun item isItem => identified_eq_ok_iff.mpr ⟨?_, rfl⟩
  obtain ⟨result, isResult, isEvidence⟩ := exists_evidenceItem_iff.mp ⟨item, isItem, rfl⟩
  exact canonicalSourceId_eq_ok_iff.mpr ⟨identified result isResult item.2 isEvidence, rfl⟩

/-- The graph of results of complete identities is built unless there are too many references or
an identity is too long. -/
theorem fromStepResults_eq_ok_iff
    (identified : ∀ result ∈ results, ∀ evidence ∈ result.evidence, Identified casefold evidence) :
    EvidenceGraph.fromStepResults casefold results = .ok graph ↔
      (evidenceItems results).length ≤ maxEvidence ∧
        (∀ source ∈ sources casefold results, source.length ≤ 701) ∧
          presentedGraph casefold results = graph := by
  have nodes : ∀ source node, nodeOf casefold (labelledItems casefold results) source = .ok node ↔
      source.length ≤ 701 ∧ presentedNode casefold results source = node := by
    intro source node
    simp only [nodeOf, bind_eq_ok_iff, exists_unit_iff, rejectIf_eq_ok_iff, gt_iff_lt, not_lt,
      pure_eq_ok_iff]
    rfl
  have count : (labelledItems casefold results).length = (evidenceItems results).length := by
    rw [labelledItems, List.length_map]
  simp only [EvidenceGraph.fromStepResults, collect_labelledItems identified, bind_eq_ok_iff,
    exists_unit_iff, rejectIf_eq_ok_iff, gt_iff_lt, not_lt, pure_eq_ok_iff, Except.ok.injEq,
    exists_eq_left', count, collectEach_eq_ok_map nodes]
  constructor
  · rintro ⟨few, _, ⟨short, rfl⟩, rfl⟩
    exact ⟨few, short, rfl⟩
  · rintro ⟨few, short, rfl⟩
    exact ⟨few, _, ⟨short, rfl⟩, rfl⟩

theorem forall_mem_zipIdx_iff {α : Type} {P : α → Prop} {items : List α} :
    (∀ numbered ∈ items.zipIdx, P numbered.1) ↔ ∀ item ∈ items, P item := by
  constructor
  · intro every item isItem
    obtain ⟨index, within, same⟩ := List.mem_iff_getElem.mp isItem
    exact every (item, index) (List.mk_mem_zipIdx_iff_getElem?.mpr
      (List.getElem?_eq_some_iff.mpr ⟨within, same⟩))
  · intro every numbered isNumbered
    exact every numbered.1 (List.fst_mem_of_mem_zipIdx isNumbered)

/-- The citations of a graph are built unless a label is too long. -/
theorem buildCitations_eq_ok_iff {citations : List Citation} :
    buildCitations graph = .ok citations ↔
      (∀ node ∈ graph.nodes, ∀ first ∈ node.evidence.head?, (citationLabel first).length ≤ 1000) ∧
        presentedCitations graph = citations := by
  have labels : ∀ numbered citation, citationOf numbered = .ok citation ↔
      (∀ first ∈ numbered.1.evidence.head?, (citationLabel first).length ≤ 1000) ∧
        presentedCitation numbered = citation := by
    intro numbered citation
    simp only [citationOf, bind_eq_ok_iff, exists_unit_iff, rejectIf_eq_ok_iff, gt_iff_lt, not_lt,
      pure_eq_ok_iff]
    refine and_congr ?_ Iff.rfl
    cases numbered.1.evidence.head? <;> simp
  rw [buildCitations, collectEach_eq_ok_map labels, presentedCitations]
  exact and_congr_left fun _ => forall_mem_zipIdx_iff (P := fun node : EvidenceNode =>
    ∀ first ∈ node.evidence.head?, (citationLabel first).length ≤ 1000)

/-- The ordinals of references whose sources are cited. -/
theorem collect_ordinals {citations : List Citation} {evidence : List EvidenceReference}
    (cited : ∀ one ∈ evidence, Identified casefold one ∧
      sourceOf casefold one ∈ citations.map (·.canonicalSourceId)) :
    collectEach (ordinalOf casefold citations) evidence =
      .ok (presentedOrdinals casefold citations evidence) := by
  induction evidence with
  | nil => rfl
  | cons one rest ih =>
      obtain ⟨isIdentified, isCited⟩ := cited one List.mem_cons_self
      obtain ⟨citation, isCitation, same⟩ := List.mem_map.mp isCited
      have some : (citations.reverse.find?
          (·.canonicalSourceId = sourceOf casefold one)).isSome := by
        rw [List.find?_isSome]
        exact ⟨citation, List.mem_reverse.mpr isCitation, decide_eq_true same⟩
      obtain ⟨found, isFound⟩ := Option.isSome_iff_exists.mp some
      have own : ordinalOf casefold citations one = .ok found.ordinal := by
        rw [ordinalOf, canonicalSourceId_eq_ok_iff.mpr ⟨isIdentified, rfl⟩]
        simp only [bind, Except.bind, isFound]
        rfl
      have others := ih fun other isOther => cited other (List.mem_cons_of_mem _ isOther)
      have first : presentedOrdinals casefold citations (one :: rest) =
          found.ordinal :: presentedOrdinals casefold citations rest := by
        simp only [presentedOrdinals, List.filterMap_cons, isFound, Option.map_some]
      rw [collectEach, own, others, first]
      rfl

theorem presentedGraph_sources :
    (presentedGraph casefold results).nodes.map (·.canonicalSourceId) =
      sources casefold results := by
  rw [presentedGraph, List.map_map]
  exact List.map_id _

theorem presentedCitations_sources :
    (presentedCitations (presentedGraph casefold results)).map (·.canonicalSourceId) =
      sources casefold results := by
  rw [presentedCitations, List.map_map, ← presentedGraph_sources]
  change (presentedGraph casefold results).nodes.zipIdx.map ((·.canonicalSourceId) ∘ Prod.fst) = _
  rw [← List.map_map, List.zipIdx_map_fst]

theorem sourceOf_mem_sources {result : StepResult} (isResult : result ∈ results)
    {evidence : EvidenceReference} (isEvidence : evidence ∈ result.evidence) :
    sourceOf casefold evidence ∈ sources casefold results := by
  obtain ⟨item, isItem, rfl⟩ := exists_evidenceItem_iff.mpr ⟨result, isResult, isEvidence⟩
  rw [sources, mem_sortedSet, labelledItems, List.map_map]
  exact List.mem_map_of_mem isItem

/-- The narrative of results with complete identities and valid outputs is built. -/
theorem buildNarrativeInput_eq_ok
    (identified : ∀ result ∈ results, ∀ evidence ∈ result.evidence, Identified casefold evidence)
    (valid : ∀ result ∈ results,
      validateJson maxOutputBytes "step output" 0 result.output = .ok ())
    {conflicts : List EvidenceConflict} {confidence : ConfidenceAssessment}
    {warnings : List String} :
    buildNarrativeInput casefold results (presentedGraph casefold results)
        (presentedCitations (presentedGraph casefold results)) conflicts confidence warnings =
      .ok
        { steps := (succeededResults results).map (presentedStep casefold
            (presentedCitations (presentedGraph casefold results)))
          evidence := (presentedGraph casefold results).deduplicatedEvidence
          citations := presentedCitations (presentedGraph casefold results)
          conflicts := conflicts
          confidence := confidence
          warnings := warnings } := by
  have steps : collectEach
      (narrativeStep casefold (presentedCitations (presentedGraph casefold results)))
      ((results.insertionSort notAfterByStep).filter (·.status = .succeeded)) =
      .ok ((succeededResults results).map (presentedStep casefold
        (presentedCitations (presentedGraph casefold results)))) := by
    refine collectEach_eq_ok_iff.mpr (List.forall₂_map_right_iff.mpr ?_)
    refine List.forall₂_same.mpr fun result isSucceeded => ?_
    have isResult := mem_sorted_iff.mp (List.mem_of_mem_filter isSucceeded)
    have ordinals := @collect_ordinals casefold
      (presentedCitations (presentedGraph casefold results)) result.evidence
      fun evidence isEvidence => ⟨identified result isResult evidence isEvidence, by
        rw [presentedCitations_sources]
        exact sourceOf_mem_sources isResult isEvidence⟩
    have output : validateJson maxOutputBytes "narrative step output" 0 result.output = .ok () :=
      (validateJson_iff 0 _).mpr ((validateJson_iff 0 _).mp (valid result isResult))
    simp only [narrativeStep, ordinals, bind_eq_ok_iff, exists_unit_iff, fromDomain_eq_ok_iff,
      pure_eq_ok_iff]
    exact ⟨_, rfl, output, rfl⟩
  rw [buildNarrativeInput, steps]
  rfl

end PolicyOS.Execution
