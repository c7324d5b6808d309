import PolicyOS.Execution.Synthesis

/-!
# References grouped by source

What the graph of step results groups: every reference is in the node of its source and in no
other, and the first reference of a node stands for it.
-/

namespace PolicyOS.Execution

open Foundation

variable {casefold : String → String} {results : List StepResult} {graph : EvidenceGraph}

/-! ## Sources and their representatives -/

/-- The reference that stands for a node. -/
structure Represents (casefold : String → String) (node : EvidenceNode)
    (representative : EvidenceReference) : Prop where
  isHead : node.evidence.head? = some representative
  sameSource : canonicalSourceId casefold representative = .ok node.canonicalSourceId
  least : ∀ evidence ∈ node.evidence,
    evidenceKey casefold representative ≤ evidenceKey casefold evidence

/-- A graph groups references by their sources. -/
structure Groups (casefold : String → String) (items : List (String × EvidenceReference))
    (graph : EvidenceGraph) : Prop where
  increasing : (graph.nodes.map (·.canonicalSourceId)).Pairwise (· < ·)
  covers : ∀ item ∈ items, ∃ node ∈ graph.nodes,
    canonicalSourceId casefold item.2 = .ok node.canonicalSourceId ∧ item.2 ∈ node.evidence
  within : ∀ node ∈ graph.nodes, ∀ evidence ∈ node.evidence, ∃ item ∈ items, item.2 = evidence
  represented : ∀ node ∈ graph.nodes, ∃ representative, Represents casefold node representative

theorem exists_evidenceItem_iff {evidence : EvidenceReference} :
    (∃ item ∈ evidenceItems results, item.2 = evidence) ↔
      ∃ result ∈ results, evidence ∈ result.evidence := by
  simp only [evidenceItems, List.mem_flatMap, List.mem_map, mem_sorted_iff]
  constructor
  · rintro ⟨_, ⟨result, isResult, _, present, rfl⟩, rfl⟩
    exact ⟨result, isResult, present⟩
  · rintro ⟨result, isResult, present⟩
    exact ⟨_, ⟨result, isResult, _, present, rfl⟩, rfl⟩

theorem identified_eq_ok_iff {item : String × EvidenceReference}
    {labelled : String × String × EvidenceReference} :
    identified casefold item = .ok labelled ↔
      canonicalSourceId casefold item.2 = .ok labelled.1 ∧ labelled.2 = item := by
  simp only [identified, bind_eq_ok_iff, pure_eq_ok_iff]
  constructor
  · rintro ⟨key, isKey, rfl⟩
    exact ⟨isKey, rfl⟩
  · rintro ⟨isKey, rfl⟩
    exact ⟨labelled.1, isKey, rfl⟩

/-- The node of an identity keeps the references of that identity, and the first of them
stands for it. -/
theorem represented_of_nodeOf {items : List (String × String × EvidenceReference)} {key : String}
    {node : EvidenceNode} (isNode : nodeOf casefold items key = .ok node)
    (listed : key ∈ items.map (·.1))
    (sources : ∀ item ∈ items, canonicalSourceId casefold item.2.2 = .ok item.1) :
    node.canonicalSourceId = key ∧
      (∀ evidence, evidence ∈ node.evidence ↔ ∃ item ∈ items, item.1 = key ∧
        item.2.2 = evidence) ∧
      ∃ representative, Represents casefold node representative := by
  simp only [nodeOf, bind_eq_ok_iff, exists_unit_iff, pure_eq_ok_iff] at isNode
  obtain ⟨-, rfl⟩ := isNode
  have members : ∀ evidence, evidence ∈ (orderedItems casefold items key).map (·.2) ↔
      ∃ item ∈ items, item.1 = key ∧ item.2.2 = evidence := by
    intro evidence
    simp only [orderedItems, List.mem_map, mem_sortedBy, List.mem_filter, decide_eq_true_eq]
    constructor
    · rintro ⟨_, ⟨item, ⟨isItem, sameKey⟩, rfl⟩, rfl⟩
      exact ⟨item, isItem, sameKey, rfl⟩
    · rintro ⟨item, isItem, sameKey, rfl⟩
      exact ⟨_, ⟨item, ⟨isItem, sameKey⟩, rfl⟩, rfl⟩
  have ordered : ((orderedItems casefold items key).map (·.2)).Pairwise fun first second =>
      evidenceKey casefold first ≤ evidenceKey casefold second := by
    refine List.pairwise_map.mpr (pairwise_sortedBy.imp fun {first second} lower => ?_)
    rcases Prod.Lex.le_iff.mp lower with less | ⟨same, _⟩
    · exact le_of_lt less
    · exact le_of_eq same
  refine ⟨rfl, members, ?_⟩
  cases grouped : (orderedItems casefold items key).map (·.2) with
  | nil =>
      obtain ⟨item, isItem, sameKey⟩ := List.mem_map.mp listed
      have present := (members item.2.2).mpr ⟨item, isItem, sameKey, rfl⟩
      rw [grouped] at present
      cases present
  | cons representative rest =>
      obtain ⟨item, isItem, sameKey, isFirst⟩ := (members representative).mp
        (grouped ▸ List.mem_cons_self)
      rw [grouped] at ordered
      refine ⟨representative, rfl, ?_, fun evidence present => ?_⟩
      · rw [← isFirst, sources item isItem, sameKey]
      · rcases List.mem_cons.mp present with rfl | later
        · exact le_rfl
        · exact List.rel_of_pairwise_cons ordered later

/-- The graph of results groups their references. -/
theorem groups_of_fromStepResults
    (built : EvidenceGraph.fromStepResults casefold results = .ok graph) :
    Groups casefold (evidenceItems results) graph := by
  simp only [EvidenceGraph.fromStepResults, bind_eq_ok_iff, exists_unit_iff, pure_eq_ok_iff]
    at built
  obtain ⟨items, labelled, -, nodes, areNodes, rfl⟩ := built
  have sources : ∀ item ∈ items, canonicalSourceId casefold item.2.2 = .ok item.1 ∧
      item.2 ∈ evidenceItems results := by
    intro item isItem
    obtain ⟨own, isOwn, computed⟩ := mem_of_collectEach labelled isItem
    obtain ⟨sameSource, rfl⟩ := identified_eq_ok_iff.mp computed
    exact ⟨sameSource, isOwn⟩
  have ofNode : ∀ node ∈ nodes, (∀ evidence, evidence ∈ node.evidence ↔
      ∃ item ∈ items, item.1 = node.canonicalSourceId ∧ item.2.2 = evidence) ∧
        ∃ representative, Represents casefold node representative := by
    intro node isNode
    obtain ⟨key, isKey, computed⟩ := mem_of_collectEach areNodes isNode
    obtain ⟨rfl, members, represented⟩ := represented_of_nodeOf computed
      (mem_sortedSet.mp isKey) fun item isItem => (sources item isItem).1
    exact ⟨members, represented⟩
  have keys : nodes.map (·.canonicalSourceId) = sortedSet (items.map (·.1)) := by
    have named : nodes.map (·.canonicalSourceId) = (sortedSet (items.map (·.1))).map id :=
      map_of_collectEach (fun computed => by
        simp only [nodeOf, bind_eq_ok_iff, exists_unit_iff, pure_eq_ok_iff] at computed
        rw [← computed.2, id]) areNodes
    rwa [List.map_id] at named
  refine ⟨keys ▸ pairwise_sortedSet, fun item isItem => ?_, fun node isNode evidence present => ?_,
    fun node isNode => (ofNode node isNode).2⟩
  · obtain ⟨own, isOwn, computed⟩ := exists_of_collectEach labelled isItem
    obtain ⟨sameSource, rfl⟩ := identified_eq_ok_iff.mp computed
    have isKey : own.1 ∈ nodes.map (·.canonicalSourceId) :=
      keys ▸ mem_sortedSet.mpr (List.mem_map_of_mem isOwn)
    obtain ⟨node, isNode, sameKey⟩ := List.mem_map.mp isKey
    exact ⟨node, isNode, sameKey ▸ sameSource,
      ((ofNode node isNode).1 _).mpr ⟨own, isOwn, sameKey.symm, rfl⟩⟩
  · obtain ⟨item, isItem, -, isEvidence⟩ := ((ofNode node isNode).1 evidence).mp present
    exact ⟨item.2, (sources item isItem).2, isEvidence⟩

namespace Groups

variable {items : List (String × EvidenceReference)}

theorem mem_deduplicated {node : EvidenceNode} (isNode : node ∈ graph.nodes)
    {representative : EvidenceReference} (represents : Represents casefold node representative) :
    representative ∈ graph.deduplicatedEvidence :=
  List.mem_filterMap.mpr ⟨node, isNode, represents.isHead⟩

theorem exists_represents (groups : Groups casefold items graph) {evidence : EvidenceReference}
    (present : evidence ∈ graph.deduplicatedEvidence) :
    ∃ node ∈ graph.nodes, Represents casefold node evidence := by
  obtain ⟨node, isNode, isHead⟩ := List.mem_filterMap.mp present
  obtain ⟨representative, represents⟩ := groups.represented node isNode
  obtain rfl : representative = evidence := Option.some.inj (represents.isHead.symm.trans isHead)
  exact ⟨node, isNode, represents⟩

theorem mem_of_sameSource (groups : Groups casefold items graph) {node : EvidenceNode}
    (isNode : node ∈ graph.nodes) {item : String × EvidenceReference} (isItem : item ∈ items)
    (same : canonicalSourceId casefold item.2 = .ok node.canonicalSourceId) :
    item.2 ∈ node.evidence := by
  obtain ⟨own, isOwn, sameSource, grouped⟩ := groups.covers item isItem
  have distinct : (graph.nodes.map (·.canonicalSourceId)).Nodup :=
    groups.increasing.imp fun increases => ne_of_lt increases
  obtain rfl : own = node := List.inj_on_of_nodup_map distinct isOwn isNode
    (Except.ok.inj (sameSource.symm.trans same))
  exact grouped

/-- The deduplicated evidence has the identities of the nodes. -/
theorem collected_ids (groups : Groups casefold items graph) :
    collectEach (canonicalSourceId casefold) graph.deduplicatedEvidence =
      .ok (graph.nodes.map (·.canonicalSourceId)) := by
  have represented := groups.represented
  unfold EvidenceGraph.deduplicatedEvidence
  generalize graph.nodes = nodes at represented ⊢
  induction nodes with
  | nil => rfl
  | cons node rest ih =>
      obtain ⟨representative, represents⟩ := represented node List.mem_cons_self
      have isFirst : (node :: rest).filterMap (·.evidence.head?) =
          representative :: rest.filterMap (·.evidence.head?) :=
        List.filterMap_cons_some represents.isHead
      rw [isFirst, collectEach, represents.sameSource,
        ih fun other isOther => represented other (List.mem_cons_of_mem node isOther)]
      rfl

end Groups

theorem citation_ids {citations : List Citation} (built : buildCitations graph = .ok citations) :
    citations.map (·.canonicalSourceId) = graph.nodes.map (·.canonicalSourceId) := by
  have cited : citations.map (·.canonicalSourceId) =
      graph.nodes.zipIdx.map ((·.canonicalSourceId) ∘ Prod.fst) :=
    map_of_collectEach (fun computed => by
      simp only [citationOf, bind_eq_ok_iff, exists_unit_iff, pure_eq_ok_iff] at computed
      rw [← computed.2, Function.comp_apply]) built
  rw [cited, ← List.map_map, List.zipIdx_map_fst]

end PolicyOS.Execution

/-!
# Synthesis in any order

The assembler orders the results by their steps first, so the order they are given in does not
matter. The references of all steps are distributed over the nodes, and whatever the narrative
cites is one of the numbered sources.
-/

namespace PolicyOS.Execution

open Foundation

variable {casefold : String → String} {plan : ExecutionPlan}
  {stepResults results : List StepResult} {graph : EvidenceGraph} {assembly : SynthesisAssembly}
  {startedAt completedAt : DateTime}

/-! ## The order of the results -/

theorem insertionSort_notAfterByStep_perm {others : List StepResult}
    (same : others.Perm stepResults) (distinct : (stepResults.map (·.stepId)).Nodup) :
    others.insertionSort notAfterByStep = stepResults.insertionSort notAfterByStep :=
  @sortedBy_eq_of_perm StepResult String _ (·.stepId) others stepResults same
    (((same.map _).nodup_iff).mpr distinct)

/-- The same results in another order are ordered alike, or refused alike. -/
theorem orderedResults_perm {others : List StepResult} (same : others.Perm stepResults) :
    orderedResults plan others startedAt completedAt =
      orderedResults plan stepResults startedAt completedAt := by
  by_cases distinct : (stepResults.map (·.stepId)).Nodup
  · simp only [orderedResults, insertionSort_notAfterByStep_perm same distinct]
  · have refused : ∀ given : List StepResult, given.Perm stepResults →
        ¬ ((given.insertionSort notAfterByStep).map (·.stepId)).Nodup := by
      intro given alike
      rwa [(((List.perm_insertionSort notAfterByStep given).trans alike).map _).nodup_iff]
    have first := refused others same
    have second := refused stepResults (.refl _)
    unfold orderedResults
    simp only [rejectIf, first, second, not_false_iff, true_or, if_true]
    rfl

theorem assemble_perm {others : List StepResult} (same : others.Perm stepResults) :
    assemble casefold plan others startedAt completedAt =
      assemble casefold plan stepResults startedAt completedAt := by
  rw [assemble, assemble, orderedResults_perm same]

/-! ## Where the references are -/

/-- What a node holds of the references of results. -/
structure HoldsReferences (casefold : String → String) (results : List StepResult)
    (nodes : List EvidenceNode) : Prop where
  all : (nodes.flatMap (·.evidence)).Perm (results.flatMap (·.evidence))
  ofSource : ∀ node ∈ nodes, ∀ evidence ∈ node.evidence,
    canonicalSourceId casefold evidence = .ok node.canonicalSourceId
  ofStep : ∀ result ∈ results, ∀ evidence ∈ result.evidence, ∀ node ∈ nodes,
    canonicalSourceId casefold evidence = .ok node.canonicalSourceId →
      result.stepId ∈ node.stepIds

theorem perm_evidenceItems :
    ((evidenceItems results).map (·.2)).Perm (results.flatMap (·.evidence)) := by
  have own : ∀ given : List StepResult,
      ((given.flatMap fun result => result.evidence.map (result.stepId, ·)).map (·.2)) =
        given.flatMap (·.evidence) := by
    intro given
    simp [List.map_flatMap, Function.comp_def]
  rw [evidenceItems, own]
  exact (List.perm_insertionSort notAfterByStep results).flatMap_right _

/-- The nodes of a graph hold the references of the results. -/
theorem holdsReferences (built : EvidenceGraph.fromStepResults casefold results = .ok graph) :
    HoldsReferences casefold results graph.nodes := by
  simp only [EvidenceGraph.fromStepResults, bind_eq_ok_iff, exists_unit_iff, pure_eq_ok_iff]
    at built
  obtain ⟨items, labelled, -, nodes, areNodes, rfl⟩ := built
  have labels : items.map (·.2) = evidenceItems results := by
    refine (map_of_collectEach (fun computed => ?_) labelled).trans (List.map_id _)
    exact (identified_eq_ok_iff.mp computed).2
  have sources : ∀ item ∈ items, canonicalSourceId casefold item.2.2 = .ok item.1 := by
    intro item isItem
    obtain ⟨own, -, computed⟩ := mem_of_collectEach labelled isItem
    obtain ⟨sameSource, rfl⟩ := identified_eq_ok_iff.mp computed
    exact sameSource
  have ofNode : ∀ node ∈ nodes, ∃ key,
      node.canonicalSourceId = key ∧ node.evidence = (orderedItems casefold items key).map (·.2) ∧
        node.stepIds = sortedSet ((orderedItems casefold items key).map (·.1)) := by
    intro node isNode
    obtain ⟨key, -, computed⟩ := mem_of_collectEach areNodes isNode
    simp only [nodeOf, bind_eq_ok_iff, exists_unit_iff, pure_eq_ok_iff] at computed
    obtain ⟨-, rfl⟩ := computed
    exact ⟨key, rfl, rfl, rfl⟩
  refine ⟨?_, ?_, ?_⟩
  · have grouped : nodes.map (·.evidence) =
        (sortedSet (items.map (·.1))).map fun key => (orderedItems casefold items key).map (·.2) :=
      map_of_collectEach (fun computed => by
        simp only [nodeOf, bind_eq_ok_iff, exists_unit_iff, pure_eq_ok_iff] at computed
        rw [← computed.2]) areNodes
    have taken : (nodes.flatMap (·.evidence)).Perm (items.map (·.2.2)) := by
      rw [List.flatMap_def, grouped, ← List.flatMap_def]
      have perKey : ∀ key, ((orderedItems casefold items key).map (·.2)).Perm
          ((items.filter (·.1 = key)).map (·.2.2)) := by
        intro key
        have ordered : (orderedItems casefold items key).Perm
            ((items.filter (·.1 = key)).map (·.2)) := perm_sortedBy
        refine (ordered.map (·.2)).trans (List.Perm.of_eq ?_)
        rw [List.map_map]
        rfl
      refine (List.Perm.flatMap_left _ fun key _ => perKey key).trans ?_
      rw [← List.map_flatMap]
      exact (perm_flatMap_filter nodup_sortedSet fun item isItem =>
        mem_sortedSet.mpr (List.mem_map_of_mem isItem)).map _
    refine taken.trans (List.Perm.trans (List.Perm.of_eq ?_) perm_evidenceItems)
    rw [← labels, List.map_map]
    rfl
  · intro node isNode evidence isEvidence
    obtain ⟨key, rfl, isOwn, -⟩ := ofNode node isNode
    rw [isOwn, orderedItems] at isEvidence
    simp only [List.mem_map, mem_sortedBy, List.mem_filter, decide_eq_true_eq] at isEvidence
    obtain ⟨_, ⟨item, ⟨isItem, same⟩, rfl⟩, rfl⟩ := isEvidence
    rw [sources item isItem, same]
  · intro result isResult evidence isEvidence node isNode same
    obtain ⟨key, rfl, -, steps⟩ := ofNode node isNode
    have isItem : (result.stepId, evidence) ∈ items.map (·.2) := by
      rw [labels, evidenceItems, List.mem_flatMap]
      exact ⟨result, mem_sorted_iff.mpr isResult, List.mem_map_of_mem isEvidence⟩
    obtain ⟨item, listed, isOwn⟩ := List.mem_map.mp isItem
    have ofSource := sources item listed
    rw [isOwn, same] at ofSource
    rw [steps, mem_sortedSet, List.mem_map]
    refine ⟨(result.stepId, evidence), ?_, rfl⟩
    rw [orderedItems, mem_sortedBy, List.mem_map]
    exact ⟨item, List.mem_filter.mpr ⟨listed, decide_eq_true (Except.ok.inj ofSource).symm⟩, isOwn⟩

/-! ## What the narrative cites -/

theorem citation_ordinals {citations : List Citation}
    (built : buildCitations graph = .ok citations) :
    citations.map (·.ordinal) = List.range' 1 graph.nodes.length := by
  have cited : citations.map (·.ordinal) = graph.nodes.zipIdx.map fun numbered => numbered.2 + 1 :=
    map_of_collectEach (fun computed => by
      simp only [citationOf, bind_eq_ok_iff, exists_unit_iff, pure_eq_ok_iff] at computed
      rw [← computed.2]) built
  rw [cited, show (fun numbered : EvidenceNode × Nat => numbered.2 + 1) =
    (· + 1) ∘ Prod.snd from rfl, ← List.map_map, List.zipIdx_map_snd, ← List.range'_succ_left]

/-- What a narrated step cites is a citation, of the source of one of its references. -/
theorem ordinal_of_narrativeStep {citations : List Citation} {result : StepResult}
    {step : NarrativeStep} (narrated : narrativeStep casefold citations result = .ok step)
    {ordinal : Nat} (cites : ordinal ∈ step.citationOrdinals) :
    ∃ citation ∈ citations, citation.ordinal = ordinal ∧ ∃ evidence ∈ result.evidence,
      canonicalSourceId casefold evidence = .ok citation.canonicalSourceId := by
  simp only [narrativeStep, bind_eq_ok_iff, exists_unit_iff, pure_eq_ok_iff] at narrated
  obtain ⟨ordinals, collected, -, rfl⟩ := narrated
  obtain ⟨evidence, isEvidence, computed⟩ := mem_of_collectEach collected (mem_sortedSet.mp cites)
  simp only [ordinalOf, bind_eq_ok_iff] at computed
  obtain ⟨key, isKey, computed⟩ := computed
  split at computed
  · rename_i citation found
    obtain rfl := Except.ok.inj computed
    have same : citation.canonicalSourceId = key := by simpa using List.find?_some found
    exact ⟨citation, List.mem_reverse.mp (List.mem_of_find?_eq_some found), rfl, evidence,
      isEvidence, same ▸ isKey⟩
  · cases computed

/-- An assembly has all references of its results, each in one node, and its narrative cites
numbered sources only. -/
structure KeepsEvidence (casefold : String → String) (stepResults : List StepResult)
    (assembly : SynthesisAssembly) : Prop where
  all : (assembly.evidenceGraph.nodes.flatMap (·.evidence)).Perm
    (stepResults.flatMap (·.evidence))
  once : ∀ result ∈ stepResults, ∀ evidence ∈ result.evidence,
    ∃! node, node ∈ assembly.evidenceGraph.nodes ∧ evidence ∈ node.evidence
  ofStep : ∀ result ∈ stepResults, ∀ evidence ∈ result.evidence,
    ∀ node ∈ assembly.evidenceGraph.nodes, evidence ∈ node.evidence → result.stepId ∈ node.stepIds
  numbered : assembly.narrativeInput.citations.map (·.ordinal) =
    List.range' 1 assembly.evidenceGraph.nodes.length
  resolved : ∀ step ∈ assembly.narrativeInput.steps, ∀ ordinal ∈ step.citationOrdinals,
    ∃ citation ∈ assembly.narrativeInput.citations, citation.ordinal = ordinal ∧
      ∃ result ∈ stepResults, result.stepId = step.stepId ∧ ∃ evidence ∈ result.evidence,
        canonicalSourceId casefold evidence = .ok citation.canonicalSourceId

/-- Whatever is assembled keeps the evidence. -/
theorem keepsEvidence_of_assemble
    (assembled : assemble casefold plan stepResults startedAt completedAt = .ok assembly) :
    KeepsEvidence casefold stepResults assembly := by
  simp only [assemble, orderedResults, buildNarrativeInput, bind_eq_ok_iff, exists_unit_iff,
    rejectIf_eq_ok_iff, pure_eq_ok_iff, fromDomain_eq_ok_iff,
    ExecutionResult.validated_eq_ok_iff] at assembled
  obtain ⟨_, ⟨-, -, rfl⟩, graph, built, conflicts, -, citations, cited, narrative,
    ⟨steps, narrated, rfl⟩, -, executionResult, -, rfl⟩ := assembled
  have holds := holdsReferences built
  have groups := groups_of_fromStepResults built
  have sorted := List.perm_insertionSort notAfterByStep stepResults
  have distinct : (graph.nodes.map (·.canonicalSourceId)).Nodup :=
    groups.increasing.imp fun increases => ne_of_lt increases
  refine ⟨holds.all.trans (sorted.flatMap_right _), ?_, ?_, citation_ordinals cited, ?_⟩
  · intro result isResult evidence isEvidence
    obtain ⟨item, isItem, rfl⟩ := exists_evidenceItem_iff.mpr
      ⟨result, sorted.mem_iff.mpr isResult, isEvidence⟩
    obtain ⟨node, isNode, isSource, present⟩ := groups.covers item isItem
    refine ⟨node, ⟨isNode, present⟩, ?_⟩
    rintro other ⟨isOther, alsoPresent⟩
    have same := (holds.ofSource other isOther _ alsoPresent).symm.trans isSource
    exact List.inj_on_of_nodup_map distinct isOther isNode (Except.ok.inj same)
  · intro result isResult evidence isEvidence node isNode present
    exact holds.ofStep result (sorted.mem_iff.mpr isResult) evidence isEvidence node isNode
      (holds.ofSource node isNode evidence present)
  · intro step isStep ordinal cites
    obtain ⟨result, isResult, computed⟩ := mem_of_collectEach narrated isStep
    obtain ⟨citation, isCitation, isOrdinal, evidence, isEvidence, isSource⟩ :=
      ordinal_of_narrativeStep computed cites
    refine ⟨citation, isCitation, isOrdinal, result, ?_, ?_, evidence, isEvidence, isSource⟩
    · exact mem_sorted_iff.mp (mem_sorted_iff.mp (List.mem_of_mem_filter isResult))
    · simp only [narrativeStep, bind_eq_ok_iff, exists_unit_iff, pure_eq_ok_iff] at computed
      obtain ⟨_, -, -, rfl⟩ := computed
      rfl

/-- A synthesis does not depend on the order of the results, and keeps all their evidence. -/
theorem synthesis_complete (casefold : String → String) (plan : ExecutionPlan)
    (stepResults : List StepResult) (startedAt completedAt : DateTime) :
    (∀ others : List StepResult, others.Perm stepResults →
        assemble casefold plan others startedAt completedAt =
          assemble casefold plan stepResults startedAt completedAt) ∧
      ∀ assembly, assemble casefold plan stepResults startedAt completedAt = .ok assembly →
        KeepsEvidence casefold stepResults assembly :=
  ⟨fun _ same => assemble_perm same, fun _ assembled => keepsEvidence_of_assemble assembled⟩

/-! ## Sources that are told apart -/

/-- The source and the record of a reference, as its identity has them. -/
def normalisedSource (casefold : String → String) (evidence : EvidenceReference) :
    List Char × List Char :=
  ((casefold (strip evidence.source)).toList, (casefold (strip evidence.recordId)).toList)

/-- The second source goes on where the first ends, with a colon and what the first record starts
with; a colon and the second record are the rest of the first. -/
def Overlaps (first second : List Char × List Char) : Prop :=
  ∃ between, second.1 = first.1 ++ ':' :: between ∧ first.2 = between ++ ':' :: second.2

/-- An identity is the source, a colon and the record. -/
theorem canonicalSourceId_eq_ok {evidence : EvidenceReference} {key : String}
    (isKey : canonicalSourceId casefold evidence = .ok key) :
    key.toList = (normalisedSource casefold evidence).1 ++
      ':' :: (normalisedSource casefold evidence).2 := by
  simp only [canonicalSourceId, bind_eq_ok_iff, exists_unit_iff, pure_eq_ok_iff] at isKey
  rw [← isKey.2]
  simp [normalisedSource]

/-- Texts joined by a colon are the same only if their parts are, or overlap. -/
theorem joined_eq {first second : List Char × List Char}
    (same : first.1 ++ ':' :: first.2 = second.1 ++ ':' :: second.2) :
    first = second ∨ Overlaps first second ∨ Overlaps second first := by
  obtain ⟨source, record⟩ := first
  obtain ⟨otherSource, otherRecord⟩ := second
  rcases List.append_eq_append_iff.mp same with ⟨tail, longer, rest⟩ | ⟨tail, longer, rest⟩
  · cases tail with
    | nil =>
        cases rest
        exact .inl (by simpa using longer.symm)
    | cons char between =>
        cases rest
        exact .inr (.inl ⟨between, longer, rfl⟩)
  · cases tail with
    | nil =>
        cases rest
        exact .inl (by simpa using longer)
    | cons char between =>
        cases rest
        exact .inr (.inr ⟨between, longer, rfl⟩)

/-- Two references with an identity are told apart by it exactly if neither overlaps the
other. -/
theorem identities_apart_iff (casefold : String → String) (first second : EvidenceReference)
    {key otherKey : String} (isFirst : canonicalSourceId casefold first = .ok key)
    (isSecond : canonicalSourceId casefold second = .ok otherKey) :
    (key = otherKey → normalisedSource casefold first = normalisedSource casefold second) ↔
      ¬ Overlaps (normalisedSource casefold first) (normalisedSource casefold second) ∧
      ¬ Overlaps (normalisedSource casefold second) (normalisedSource casefold first) := by
  have keys : ∀ {one other : EvidenceReference} {key otherKey : String},
      canonicalSourceId casefold one = .ok key → canonicalSourceId casefold other = .ok otherKey →
      Overlaps (normalisedSource casefold one) (normalisedSource casefold other) →
        key = otherKey ∧ normalisedSource casefold one ≠ normalisedSource casefold other := by
    rintro one other key otherKey isOne isOther ⟨between, longer, rest⟩
    refine ⟨String.toList_injective ?_, fun same => ?_⟩
    · rw [canonicalSourceId_eq_ok isOne, canonicalSourceId_eq_ok isOther, longer, rest]
      simp
    · rw [same] at longer
      simpa using congrArg List.length longer
  constructor
  · intro apart
    refine ⟨fun overlaps => ?_, fun overlaps => ?_⟩
    · obtain ⟨same, differ⟩ := keys isFirst isSecond overlaps
      exact differ (apart same)
    · obtain ⟨same, differ⟩ := keys isSecond isFirst overlaps
      exact differ (apart same.symm).symm
  · rintro ⟨noFirst, noSecond⟩ rfl
    have same := (canonicalSourceId_eq_ok isFirst).symm.trans (canonicalSourceId_eq_ok isSecond)
    exact (joined_eq same).resolve_right (not_or.mpr ⟨noFirst, noSecond⟩)

namespace IdentitySample

/-- A record of a source. -/
def reference (source recordId : String) : EvidenceReference :=
  { source, recordId, classification := .public }

end IdentitySample

/-- Two records of one source are told apart. -/
theorem identities_apart_iff_records :
    ¬ Overlaps (normalisedSource id (IdentitySample.reference "census" "r1"))
      (normalisedSource id (IdentitySample.reference "census" "r2")) :=
  have isFirst : canonicalSourceId id (IdentitySample.reference "census" "r1") =
      .ok "census:r1" := by decide +kernel
  have isSecond : canonicalSourceId id (IdentitySample.reference "census" "r2") =
      .ok "census:r2" := by decide +kernel
  ((identities_apart_iff id _ _ isFirst isSecond).mp fun same => absurd same (by decide)).1

/-- A colon in a source or a record: two records have one identity. -/
theorem not_identities_apart :
    canonicalSourceId id (IdentitySample.reference "census" "2020:r1") = .ok "census:2020:r1" ∧
      canonicalSourceId id (IdentitySample.reference "census:2020" "r1") =
        .ok "census:2020:r1" ∧
      normalisedSource id (IdentitySample.reference "census" "2020:r1") ≠
        normalisedSource id (IdentitySample.reference "census:2020" "r1") := by
  decide +kernel

end PolicyOS.Execution
