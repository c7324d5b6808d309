import PolicyOS.Execution.Domain
import PolicyOS.Execution.JsonValidation
import PolicyOS.Foundation.SortedBy

/-!
# Synthesis of step results

The synthesis of an execution starts over from the results of its steps: it orders
them, checks that they are exactly the steps of the plan, and computes the status of
the execution from them. It never sees the runtime state they came from.
-/

namespace PolicyOS.Execution

open Foundation

/-- The exception classes the synthesis raises. -/
inductive SynthesisErrorKind
  | completeness | identity | evidenceGraph | validation
  deriving DecidableEq, Repr

/-- A typed failure of the synthesis with its message. -/
structure SynthesisError where
  kind : SynthesisErrorKind
  message : String
  deriving DecidableEq, Repr

/-- One result is not after another by its step. -/
def notAfterByStep (left right : StepResult) : Prop := left.stepId ≤ right.stepId

instance (left right : StepResult) : Decidable (notAfterByStep left right) :=
  inferInstanceAs (Decidable (_ ≤ _))

/-- The results of exactly the steps of the plan, ordered by step. -/
def orderedResults (plan : ExecutionPlan) (stepResults : List StepResult)
    (startedAt completedAt : DateTime) : Except SynthesisError (List StepResult) := do
  rejectIf (completedAt < startedAt)
    ⟨.completeness, "Synthesis completion cannot precede start"⟩
  let results := stepResults.insertionSort notAfterByStep
  let actual := results.map (·.stepId)
  rejectIf (¬ actual.Nodup ∨ ¬ (actual ⊆ plan.stepIds ∧ plan.stepIds ⊆ actual))
    ⟨.identity, "Step results do not exactly match execution plan"⟩
  pure results

/-- The result is of a required step of the plan. -/
def requiredResult (plan : ExecutionPlan) (result : StepResult) : Prop :=
  ∃ step ∈ plan.steps.find? (·.stepId = result.stepId), step.required = true

instance (plan : ExecutionPlan) (result : StepResult) : Decidable (requiredResult plan result) :=
  inferInstanceAs (Decidable (∃ _ ∈ plan.steps.find? _, _))

/-- The error of an execution whose required steps did not all succeed. -/
def requiredStepSynthesisFailure (status : ExecutionStatus) : ExecutionError where
  code := "required_step_synthesis_failure"
  message := "One or more required execution steps did not succeed"
  category := if status = .timedOut then .timeout else .internal

/-- The status of an execution by the results of its steps, and its error. -/
def executionStatus (plan : ExecutionPlan) (results : List StepResult) :
    ExecutionStatus × Option ExecutionError :=
  let required := results.filter (requiredResult plan ·)
  if ∃ result ∈ required, result.status = .timedOut then
    (.timedOut, some (requiredStepSynthesisFailure .timedOut))
  else if ∃ result ∈ required, result.status ≠ .succeeded then
    (.failed, some (requiredStepSynthesisFailure .failed))
  else if ∃ result ∈ results, result.status ≠ .succeeded then (.partial_, none)
  else (.succeeded, none)

/-- The status and error the assembler gives an execution. -/
def assembledStatus (plan : ExecutionPlan) (stepResults : List StepResult)
    (startedAt completedAt : DateTime) :
    Except SynthesisError (ExecutionStatus × Option ExecutionError) := do
  let results ← orderedResults plan stepResults startedAt completedAt
  pure (executionStatus plan results)

theorem mem_sorted_iff {result : StepResult} {results : List StepResult} :
    result ∈ results.insertionSort notAfterByStep ↔ result ∈ results :=
  List.mem_insertionSort _

/-- The results of exactly the steps of the plan are assembled, with the status of
those results. -/
theorem assembledStatus_eq_ok {plan : ExecutionPlan} {stepResults : List StepResult}
    {startedAt completedAt : DateTime} (ordered : startedAt ≤ completedAt)
    (listed : (stepResults.map (·.stepId)).Perm plan.stepIds) :
    assembledStatus plan stepResults startedAt completedAt =
      .ok (executionStatus plan (stepResults.insertionSort notAfterByStep)) := by
  have sorted : ((stepResults.insertionSort notAfterByStep).map (·.stepId)).Perm plan.stepIds :=
    ((List.perm_insertionSort notAfterByStep stepResults).map _).trans listed
  simp only [assembledStatus, orderedResults, bind_eq_ok_iff, exists_unit_iff,
    rejectIf_eq_ok_iff, pure_eq_ok_iff, not_lt, not_or, not_not]
  exact ⟨_, ⟨ordered, ⟨sorted.nodup_iff.mpr plan.stepIds_nodup, sorted.subset,
    sorted.symm.subset⟩, rfl⟩, rfl⟩

/-!
# Evidence assembly

The evidence of all step results is grouped by its normalized source, each group is
ordered, and its first reference represents it in the assembled result and in the
input of the narrative. Case folding is a parameter; it is only ever applied, never
inspected.
-/

/-- The bounds of evidence and of conflicts. -/
def maxEvidence : Nat := 500
def maxConflicts : Nat := 100

/-- How much a synthesis can be relied on. -/
inductive ConfidenceLevel
  | unknown | low | medium | high
  deriving DecidableEq, Repr

/-- The serialized level. -/
def ConfidenceLevel.value : ConfidenceLevel → String
  | unknown => "unknown"
  | low => "low"
  | medium => "medium"
  | high => "high"

/-- All references to one source. -/
structure EvidenceNode where
  canonicalSourceId : String
  evidence : List EvidenceReference
  stepIds : List String
  deriving DecidableEq

/-- The sources of an execution, in order. -/
structure EvidenceGraph where
  nodes : List EvidenceNode
  deriving DecidableEq

/-- References to one source that disagree. -/
structure EvidenceConflict where
  conflictCode : String
  canonicalSourceId : String
  fields : List String
  evidenceCount : Nat
  requiresReview : Bool := true
  deriving DecidableEq

/-- A numbered source. -/
structure Citation where
  ordinal : Nat
  canonicalSourceId : String
  label : String
  deriving DecidableEq

/-- The confidence in a synthesis, with its reasons. -/
structure ConfidenceAssessment where
  level : ConfidenceLevel
  score : Int
  reasonCodes : List String
  deriving DecidableEq

/-- The output of a successful step, with the sources it cites. -/
structure NarrativeStep where
  stepId : String
  output : JsonValue
  citationOrdinals : List Nat := []
  deriving DecidableEq

/-- What a narrative is written from. -/
structure NarrativeInput where
  steps : List NarrativeStep
  evidence : List EvidenceReference
  citations : List Citation
  conflicts : List EvidenceConflict
  confidence : ConfidenceAssessment
  warnings : List String
  deriving DecidableEq

/-- An assembled result, with the graph and the narrative input it came with. -/
structure SynthesisAssembly where
  executionResult : ExecutionResult
  evidenceGraph : EvidenceGraph
  narrativeInput : NarrativeInput
  deriving DecidableEq

/-! ## Serialization -/

/-- An optional text. -/
def optionalText : Option String → JsonValue
  | none => .null
  | some value => .text value

/-- A list of texts. -/
def textArray (values : List String) : JsonValue := .array (values.map .text)

/-- The serialized reference. -/
def EvidenceReference.modelDump (evidence : EvidenceReference) : JsonValue :=
  .object
    [("source", .text evidence.source), ("record_id", .text evidence.recordId),
      ("title", optionalText evidence.title), ("uri", optionalText evidence.uri),
      ("classification", .text evidence.classification.value)]

/-- The serialized step. -/
def NarrativeStep.modelDump (step : NarrativeStep) : JsonValue :=
  .object
    [("step_id", .text step.stepId), ("output", step.output),
      ("citation_ordinals", .array (step.citationOrdinals.map fun ordinal => .integer ordinal))]

/-- The serialized citation. -/
def Citation.modelDump (citation : Citation) : JsonValue :=
  .object
    [("ordinal", .integer citation.ordinal),
      ("canonical_source_id", .text citation.canonicalSourceId), ("label", .text citation.label)]

/-- The serialized conflict. -/
def EvidenceConflict.modelDump (conflict : EvidenceConflict) : JsonValue :=
  .object
    [("conflict_code", .text conflict.conflictCode),
      ("canonical_source_id", .text conflict.canonicalSourceId),
      ("fields", textArray conflict.fields), ("evidence_count", .integer conflict.evidenceCount),
      ("requires_review", .boolean conflict.requiresReview)]

/-- The serialized confidence. -/
def ConfidenceAssessment.modelDump (confidence : ConfidenceAssessment) : JsonValue :=
  .object
    [("level", .text confidence.level.value), ("score", .integer confidence.score),
      ("reason_codes", textArray confidence.reasonCodes)]

/-- The serialized narrative input. -/
def NarrativeInput.modelDump (input : NarrativeInput) : JsonValue :=
  .object
    [("steps", .array (input.steps.map (·.modelDump))),
      ("evidence", .array (input.evidence.map (·.modelDump))),
      ("citations", .array (input.citations.map (·.modelDump))),
      ("conflicts", .array (input.conflicts.map (·.modelDump))),
      ("confidence", input.confidence.modelDump), ("warnings", textArray input.warnings)]

/-! ## The graph -/

/-- The text without its leading and trailing blanks. -/
def strip (value : String) : String :=
  String.ofList ((value.toList.dropWhile isSpace).reverse.dropWhile isSpace).reverse

/-- An execution error in the synthesis. -/
def fromDomain {Value : Type} (result : Except ExecutionDomainError Value) :
    Except SynthesisError Value :=
  result.mapError fun error => ⟨.validation, error.message⟩

/-- What the domain accepts the synthesis accepts. -/
@[simp] theorem fromDomain_eq_ok_iff {Value : Type} {result : Except ExecutionDomainError Value}
    {value : Value} : fromDomain result = .ok value ↔ result = .ok value :=
  mapError_eq_ok_iff

section Folding

variable (casefold : String → String)

/-- The identity of a source. -/
def canonicalSourceId (evidence : EvidenceReference) : Except SynthesisError String := do
  let source := casefold (strip evidence.source)
  let record := casefold (strip evidence.recordId)
  rejectIf (source = "" ∨ record = "") ⟨.evidenceGraph, "Evidence source identity is incomplete"⟩
  pure (source ++ ":" ++ record)

/-- What references are ordered by. -/
def evidenceKey (evidence : EvidenceReference) : List String :=
  [casefold evidence.source, casefold evidence.recordId, evidence.title.getD "",
    evidence.uri.getD "", evidence.classification.value]

/-- What the references of one source are ordered by, with the step they come from. -/
def itemKey (item : String × EvidenceReference) : List String ×ₗ String :=
  toLex (evidenceKey casefold item.2, item.1)

/-- The references of results, with their steps. -/
def evidenceItems (results : List StepResult) : List (String × EvidenceReference) :=
  (results.insertionSort notAfterByStep).flatMap fun result =>
    result.evidence.map (result.stepId, ·)

/-- A reference with its identity and its step. -/
def identified (item : String × EvidenceReference) :
    Except SynthesisError (String × String × EvidenceReference) := do
  let key ← canonicalSourceId casefold item.2
  pure (key, item)

/-- The references grouped under one identity, in order. -/
def orderedItems (items : List (String × String × EvidenceReference)) (key : String) :
    List (String × EvidenceReference) :=
  sortedBy (itemKey casefold) ((items.filter (·.1 = key)).map (·.2))

/-- The node of one identity. -/
def nodeOf (items : List (String × String × EvidenceReference)) (key : String) :
    Except SynthesisError EvidenceNode := do
  rejectIf (key.length > 701) ⟨.validation, "String should have at most 701 characters"⟩
  let ordered := orderedItems casefold items key
  pure
    { canonicalSourceId := key
      evidence := ordered.map (·.2)
      stepIds := sortedSet (ordered.map (·.1)) }

/-- Group the references of results by their sources. -/
def EvidenceGraph.fromStepResults (results : List StepResult) :
    Except SynthesisError EvidenceGraph := do
  let items ← collectEach (identified casefold) (evidenceItems results)
  rejectIf (items.length > maxEvidence) ⟨.evidenceGraph, "Evidence graph exceeds item limit"⟩
  let keys := sortedSet (items.map (·.1))
  let nodes ← collectEach (nodeOf casefold items) keys
  pure { nodes }

/-- The first reference of every source. -/
def EvidenceGraph.deduplicatedEvidence (graph : EvidenceGraph) : List EvidenceReference :=
  graph.nodes.filterMap (·.evidence.head?)

/-! ## What is read off the graph -/

/-- The references of a node differ in a field. -/
def differs {Value : Type} [DecidableEq Value] (node : EvidenceNode)
    (field : EvidenceReference → Value) : Prop :=
  ∃ first ∈ node.evidence, ∃ second ∈ node.evidence, field first ≠ field second

instance {Value : Type} [DecidableEq Value] (node : EvidenceNode)
    (field : EvidenceReference → Value) : Decidable (differs node field) :=
  inferInstanceAs (Decidable (∃ _ ∈ _, ∃ _ ∈ _, _))

/-- The fields the references of a node differ in, in the order of their names. -/
def differingFields (node : EvidenceNode) : List String :=
  (if differs node (·.classification) then ["classification"] else []) ++
    (if differs node (·.title) then ["title"] else []) ++
    if differs node (·.uri) then ["uri"] else []

/-- The conflict of a node, if its references disagree. -/
def conflictOf (node : EvidenceNode) : Option EvidenceConflict :=
  if node.evidence.length < 2 ∨ differingFields node = [] then none
  else some
    { conflictCode := "evidence_metadata_conflict"
      canonicalSourceId := node.canonicalSourceId
      fields := differingFields node
      evidenceCount := node.evidence.length }

/-- Detect the sources whose references disagree. -/
def detectConflicts (graph : EvidenceGraph) : Except SynthesisError (List EvidenceConflict) := do
  let conflicts := graph.nodes.filterMap conflictOf
  rejectIf (conflicts.length > maxConflicts)
    ⟨.evidenceGraph, "Evidence conflicts exceed limit"⟩
  pure conflicts

/-- The label of a citation. -/
def citationLabel (evidence : EvidenceReference) : String :=
  let title := match evidence.title with
    | none | some "" => "Untitled source"
    | some title => strip title
  title ++ " — " ++ evidence.source ++ " (" ++ evidence.recordId ++ ")"

/-- The citation of a numbered node. -/
def citationOf (numbered : EvidenceNode × Nat) : Except SynthesisError Citation := do
  let label := (numbered.1.evidence.head?.map citationLabel).getD ""
  rejectIf (label.length > 1000) ⟨.validation, "String should have at most 1000 characters"⟩
  pure
    { ordinal := numbered.2 + 1
      canonicalSourceId := numbered.1.canonicalSourceId
      label := label }

/-- Number the sources. -/
def buildCitations (graph : EvidenceGraph) : Except SynthesisError (List Citation) :=
  collectEach citationOf graph.nodes.zipIdx

/-- A score for the evidence, the conflicts and the failed steps. -/
def evaluateConfidence (graph : EvidenceGraph) (conflicts : List EvidenceConflict)
    (failedStepCount : Nat) : ConfidenceAssessment :=
  let first := graph.deduplicatedEvidence
  let evidenceCount := graph.nodes.length
  let titled := first.countP (·.title.isSome)
  let sources := (first.map fun evidence => casefold evidence.source).dedup.length
  if evidenceCount = 0 then { level := .unknown, score := 0, reasonCodes := ["no_evidence"] }
  else
    let complete : Prop := titled = evidenceCount
    let base : Int := 40 + min evidenceCount 5 * 8 + min sources 3 * 6
    let cited := if complete then base + 10 else base - 10
    let agreed := if conflicts = [] then cited else cited - 30
    let succeeded := if failedStepCount = 0 then agreed else agreed - min failedStepCount 3 * 10
    let score := max 0 (min 100 succeeded)
    { level :=
        if score ≥ 80 ∧ conflicts = [] ∧ failedStepCount = 0 then .high
        else if score ≥ 55 ∧ conflicts = [] then .medium
        else .low
      score := score
      reasonCodes :=
        ["evidence_available",
          if complete then "citations_complete" else "citations_incomplete"] ++
        (if conflicts = [] then [] else ["evidence_conflicts"]) ++
        if failedStepCount = 0 then [] else ["step_failures"] }

/-- The warnings of a synthesis. -/
def buildWarnings (results : List StepResult) (graph : EvidenceGraph)
    (conflicts : List EvidenceConflict) : List String :=
  (if graph.nodes = [] then ["evidence_unavailable"] else []) ++
    (if ∃ evidence ∈ graph.deduplicatedEvidence, evidence.title = none then
      ["incomplete_citations"] else []) ++
    (if conflicts = [] then [] else ["evidence_conflicts_require_review"]) ++
    if ∃ result ∈ results, result.status ≠ .succeeded then
      ["execution_contains_non_success_steps"] else []

/-- The ordinal of the citation of a reference. -/
def ordinalOf (citations : List Citation) (evidence : EvidenceReference) :
    Except SynthesisError Nat := do
  let key ← canonicalSourceId casefold evidence
  match citations.reverse.find? (·.canonicalSourceId = key) with
  | some citation => pure citation.ordinal
  | none => .error ⟨.validation, key⟩

/-- A successful step, with the ordinals it cites in order. -/
def narrativeStep (citations : List Citation) (result : StepResult) :
    Except SynthesisError NarrativeStep := do
  let ordinals ← collectEach (ordinalOf casefold citations) result.evidence
  fromDomain (validateJson maxOutputBytes "narrative step output" 0 result.output)
  pure
    { stepId := result.stepId
      output := result.output
      citationOrdinals := sortedSet ordinals }

/-- Build the input of a narrative. -/
def buildNarrativeInput (results : List StepResult) (graph : EvidenceGraph)
    (citations : List Citation) (conflicts : List EvidenceConflict)
    (confidence : ConfidenceAssessment) (warnings : List String) :
    Except SynthesisError NarrativeInput := do
  let steps ← collectEach (narrativeStep casefold citations)
    ((results.insertionSort notAfterByStep).filter (·.status = .succeeded))
  pure
    { steps := steps
      evidence := graph.deduplicatedEvidence
      citations := citations
      conflicts := conflicts
      confidence := confidence
      warnings := warnings }

/-! ## The assembler -/

/-- The metrics of an execution. -/
def assembledMetrics (results : List StepResult) (startedAt completedAt : DateTime) :
    ExecutionMetrics where
  durationMs := some ((completedAt - startedAt) / 1000).toNat
  inputUnits := (results.map (·.metrics.inputUnits)).sum
  outputUnits := (results.map (·.metrics.outputUnits)).sum
  providerCalls := (results.map (·.metrics.providerCalls)).sum

/-- Assemble the results of the steps of a plan. -/
def assemble (plan : ExecutionPlan) (stepResults : List StepResult)
    (startedAt completedAt : DateTime) : Except SynthesisError SynthesisAssembly := do
  let results ← orderedResults plan stepResults startedAt completedAt
  let graph ← EvidenceGraph.fromStepResults casefold results
  let conflicts ← detectConflicts graph
  let citations ← buildCitations graph
  let failedCount := results.countP (·.status ≠ .succeeded)
  let confidence := evaluateConfidence casefold graph conflicts failedCount
  let warnings := buildWarnings results graph conflicts
  let narrative ← buildNarrativeInput casefold results graph citations conflicts confidence
    warnings
  fromDomain (validateJson maxOutputBytes "final output" 0 narrative.modelDump)
  let (status, error) := executionStatus plan results
  let executionResult ← fromDomain (ExecutionResult.validated
    { executionId := plan.executionId
      planId := plan.planId
      status := status
      stepResults := results
      finalOutput := narrative.modelDump
      startedAt := startedAt
      completedAt := some completedAt
      error := error
      metrics := assembledMetrics results startedAt completedAt
      evidence := graph.deduplicatedEvidence })
  pure { executionResult, evidenceGraph := graph, narrativeInput := narrative }

end Folding

end PolicyOS.Execution
