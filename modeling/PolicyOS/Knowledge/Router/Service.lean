import Mathlib.Data.List.Infix
import PolicyOS.Foundation.Checked
import PolicyOS.Foundation.Text
import PolicyOS.Knowledge.Router.Evidence

/-!
# Routed queries

A query is classified, its sources are asked for which permissions are granted, and what they
answer is merged into a package with an account of the sources. The account counts the internal
evidence before it is merged.
-/

namespace PolicyOS.Knowledge.Router

open Foundation KnowledgeEvidenceMerger

/-! ## Queries -/

inductive KnowledgeQueryType
  | policy
  | legal
  | ordinance
  | minutes
  | budget
  | statistics
  | internalDocument
  | speechReference
  | pressReference
  | combined
  | unknown
  deriving DecidableEq

/-- A query, as far as it is routed. -/
structure KnowledgeQuery where
  queryText : Text
  fiscalYear : Option Int := none
  dateRange : Option (Int × Int) := none
  maxResults : {count : Nat // 1 ≤ count ∧ count ≤ 100} := ⟨10, by decide⟩
  requiredPermissions : List String := ["knowledge.read"]

namespace KnowledgeQueryClassifier

/-- The terms of each type. -/
def rules : List (KnowledgeQueryType × List String) :=
  [(.legal, ["법적 근거", "상위법", "시행령", "법률", "법령"]),
    (.ordinance, ["조례", "자치법규"]),
    (.minutes, ["회의록", "위원회", "본회의", "발언", "질의"]),
    (.budget, ["예산", "결산", "재원", "사업비"]),
    (.statistics, ["통계", "인구", "증가율", "추세"]),
    (.speechReference, ["연설문", "과거 연설"]),
    (.pressReference, ["보도자료", "언론 배포"]),
    (.internalDocument, ["내부 문서", "과거 보고서", "정책보고서"]),
    (.policy, ["정책", "정책안", "대안"])]

/-- The type of a query, by the terms of its normalized text. -/
def classify (normalized : Text → Text) (query : KnowledgeQuery) : KnowledgeQueryType :=
  let text := normalized query.queryText
  let found := (rules.filter fun rule => rule.2.any fun term => term.toList <:+: text).map Prod.fst
  let substantive := found.filter (· ≠ .policy)
  match if substantive = [] then found else substantive with
  | [] => .unknown
  | [kind] => kind
  | _ :: _ :: _ => .combined

end KnowledgeQueryClassifier

namespace KnowledgeRoutePlanner

/-- The servers of a type. -/
def servers : KnowledgeQueryType → List KnowledgeRoute
  | .legal | .ordinance => [.lawMcp]
  | .minutes => [.minutesMcp]
  | .budget => [.financeMcp, .publicDataMcp]
  | .statistics => [.publicDataMcp]
  | .internalDocument | .speechReference | .pressReference => [.internalDocsMcp]
  | .policy | .unknown => []
  | .combined => [.lawMcp, .minutesMcp, .financeMcp, .publicDataMcp]

/-- The sources of a type, in the order they are asked. -/
def executionOrder (kind : KnowledgeQueryType) : List KnowledgeRoute :=
  .internalRag :: servers kind

/-- The permissions a source asks for. -/
def permissionRequirements : KnowledgeRoute → List String
  | .internalRag => ["knowledge.read"]
  | _ => ["mcp.read", "mcp.execute"]

end KnowledgeRoutePlanner

/-! ## Conflicts, gaps and confidence -/

structure EvidenceConflict where
  conflictType : String
  evidenceIds : List UUID
  description : String
  severity : String := "material"
  recommendedResolution : String

inductive GapSeverity
  | minorGap
  | materialGap
  | criticalGap
  deriving DecidableEq

structure EvidenceGap where
  gapType : String
  severity : GapSeverity
  description : String
  requiredSourceType : Option String := none

inductive KnowledgeConfidence
  | high
  | medium
  | low
  | unknown
  deriving DecidableEq

/-- The types of legal sources. -/
def legalTypes : List String := ["law", "regulation", "ordinance"]

/-- Values of more than one kind. -/
def several (values : List Int) : Bool := decide (1 < values.dedup.length)

namespace EvidenceConflictDetector

/-- Legal evidence of different effective dates, and budgets of different years. A year of zero
counts as none. -/
def detect (evidence : List KnowledgeEvidence) : List EvidenceConflict :=
  let legal := evidence.filter (·.sourceType ∈ legalTypes)
  let budgets := evidence.filter (·.sourceType = "budget")
  (if several (legal.filterMap (·.effectiveDate)) then
    [{ conflictType := "legal_effective_date"
       evidenceIds := legal.map (·.evidenceId)
       description := "Legal evidence uses different effective dates"
       recommendedResolution := "Review the version effective on the requested date" }]
  else []) ++
  if several ((budgets.filterMap (·.fiscalYear)).filter (· ≠ 0)) then
    [{ conflictType := "budget_fiscal_year"
       evidenceIds := budgets.map (·.evidenceId)
       description := "Budget evidence uses different fiscal years"
       recommendedResolution := "Select the requested fiscal year" }]
  else []

end EvidenceConflictDetector

namespace EvidenceGapDetector

/-- One gap, if a condition holds. -/
def gap (condition : Bool) (found : EvidenceGap) : List EvidenceGap :=
  if condition then [found] else []

/-- What the evidence for a query lacks. -/
def detect (query : KnowledgeQuery) (kind : KnowledgeQueryType)
    (evidence : List KnowledgeEvidence) : List EvidenceGap :=
  let legal := evidence.filter (·.sourceType ∈ legalTypes)
  let isLegal := kind = .legal || kind = .ordinance
  if evidence = [] then
    [{ gapType := "evidence_unavailable", severity := .criticalGap
       description := "No authorized evidence was available" }]
  else
    gap (isLegal && legal.isEmpty)
      { gapType := "legal_source_missing", severity := .materialGap
        description := "No law or ordinance source", requiredSourceType := some "law" } ++
    gap (isLegal && !legal.any (·.effectiveDate.isSome))
      { gapType := "effective_date_missing", severity := .materialGap
        description := "Legal effective date is missing" } ++
    gap (kind = .budget && !evidence.any fun item =>
        item.sourceType = "budget" && item.fiscalYear = query.fiscalYear)
      { gapType := "fiscal_year_budget_missing", severity := .materialGap
        description := "Requested fiscal-year budget is missing"
        requiredSourceType := some "budget" } ++
    gap (kind = .minutes && query.dateRange.isNone)
      { gapType := "meeting_date_missing", severity := .minorGap
        description := "Meeting date range was not supplied" } ++
    gap (kind = .statistics && !evidence.any fun item => (given item.methodology).isSome)
      { gapType := "methodology_missing", severity := .materialGap
        description := "Statistical methodology is missing" }

end EvidenceGapDetector

namespace KnowledgeConfidenceEvaluator

/-- How sure the evidence is, whether it suffices, and whether it needs a review. -/
def evaluate (evidence : List KnowledgeEvidence) (conflicts : List EvidenceConflict)
    (gaps : List EvidenceGap) : KnowledgeConfidence × String × Bool :=
  if evidence = [] then (.unknown, "insufficient", true)
  else if conflicts.length ≠ 0 ∨ gaps.any (·.severity ≠ .minorGap) = true then
    (.low, "partial", true)
  else if evidence.all (fun item => (given item.citation).isSome) = true ∧
      evidence.any (·.sourceType ∈ official) = true ∧
      2 ≤ (evidence.map (·.sourceType)).dedup.length then (.high, "sufficient", false)
  else (.medium, "partial", false)

end KnowledgeConfidenceEvaluator

/-! ## Packages -/

inductive RouteStatus
  | failure
  | partialSuccess
  | success
  deriving DecidableEq

/-- The account of the sources of a package. -/
structure KnowledgeExecutionSummary where
  selectedSources : List KnowledgeRoute
  executedSources : List KnowledgeRoute
  deniedSources : List KnowledgeRoute
  fallbackCount : Nat
  internalResultCount : Int
  mcpResultCount : Int
  mergedEvidenceCount : Nat
  status : RouteStatus
  timeout : Bool

structure KnowledgeEvidencePackage where
  queryType : KnowledgeQueryType
  evidence : List KnowledgeEvidence
  conflicts : List EvidenceConflict
  gaps : List EvidenceGap
  evidenceCount : Nat
  officialSourceCount : Nat
  citationCompleteCount : Nat
  staleCount : Nat
  confidence : KnowledgeConfidence
  sufficiency : String
  warnings : List String
  requiresHumanReview : Bool
  executionSummary : KnowledgeExecutionSummary

/-- What an executor does: it answers, or raises an exception of a class. -/
inductive Execution
  | answers (response : KnowledgeSourceResponse)
  | raises (errorClass : String)

/-- The answer of a source, or that it failed. -/
def Execution.response (route : KnowledgeRoute) : Execution → KnowledgeSourceResponse
  | .answers response => response
  | .raises errorClass =>
      { route := route, success := false, warnings := ["source_failed"]
        errorCode := some errorClass }

/-- What becomes of the sources that are asked together: each executes, or the time is out. -/
inductive Gathered
  | executed (execution : KnowledgeRoute → Execution)
  | timedOut

/-- The answers of sources. -/
def Gathered.responses (allowed : List KnowledgeRoute) : Gathered → List KnowledgeSourceResponse
  | .executed execution => allowed.map fun route => (execution route).response route
  | .timedOut => []

/-- The service, with the sources it has executors for and the normal form of texts. -/
structure KnowledgeRouterService where
  executors : List KnowledgeRoute
  normalized : Text → Text

namespace KnowledgeRouterService

variable (service : KnowledgeRouterService) (query : KnowledgeQuery) (granted : List String)
  (gathered : Gathered)

/-- The sources of a query. -/
def selected : List KnowledgeRoute :=
  KnowledgeRoutePlanner.executionOrder (KnowledgeQueryClassifier.classify service.normalized query)

/-- A source is asked if its permissions are granted and it has an executor. -/
def asks (route : KnowledgeRoute) : Bool :=
  (KnowledgeRoutePlanner.permissionRequirements route).all (· ∈ granted) &&
    route ∈ service.executors

/-- The sources that are asked. -/
def allowed : List KnowledgeRoute := (service.selected query).filter (service.asks granted)

/-- The sources that are not. -/
def denied : List KnowledgeRoute := (service.selected query).filter (! service.asks granted ·)

/-- What the sources of a query answer. -/
def responses : List KnowledgeSourceResponse :=
  gathered.responses (service.allowed query granted)

/-- The package of a query. -/
def route : Except String KnowledgeEvidencePackage := do
  rejectIf (¬ query.requiredPermissions ⊆ granted) "Knowledge routing permission denied"
  let kind := KnowledgeQueryClassifier.classify service.normalized query
  let allowed := service.allowed query granted
  let denied := service.denied query granted
  let responses := gathered.responses allowed
  let evidence := merge responses query.maxResults
  let conflicts := EvidenceConflictDetector.detect evidence
  let gaps := EvidenceGapDetector.detect query kind evidence
  let (confidence, sufficiency, review) :=
    KnowledgeConfidenceEvaluator.evaluate evidence conflicts gaps
  let internalCount : Nat :=
    ((responses.filter (·.route = .internalRag)).map (·.evidence.length)).sum
  pure
    { queryType := kind
      evidence := evidence
      conflicts := conflicts
      gaps := gaps
      evidenceCount := evidence.length
      officialSourceCount := (evidence.filter (·.sourceType ∈ official)).length
      citationCompleteCount := (evidence.filter fun item => (given item.citation).isSome).length
      staleCount := (evidence.filter (·.freshness = "stale")).length
      confidence := confidence
      sufficiency := sufficiency
      warnings := (responses.flatMap (·.warnings)).eraseDups ++ denied.map fun _ => "source_denied"
      requiresHumanReview := review || !denied.isEmpty
      executionSummary :=
        { selectedSources := service.selected query
          executedSources := allowed
          deniedSources := denied
          fallbackCount := (responses.filter (·.fallbackUsed)).length
          internalResultCount := internalCount
          mcpResultCount := (evidence.length : Int) - internalCount
          mergedEvidenceCount := evidence.length
          status :=
            if evidence = [] then .failure
            else if responses.any (! ·.success) || !denied.isEmpty || !conflicts.isEmpty ||
              !gaps.isEmpty then .partialSuccess
            else .success
          timeout := match gathered with
            | .executed _ => false
            | .timedOut => true } }

end KnowledgeRouterService

/-! ## Evidence with its source -/

/-- A piece of evidence, with the source it is from. -/
abbrev Sourced := KnowledgeRoute × KnowledgeEvidence

/-- The evidence of responses, each with its source. -/
def sourced (responses : List KnowledgeSourceResponse) : List Sourced :=
  responses.flatMap fun response => response.evidence.map (response.route, ·)

/-- Merge items one by one, each with its source. -/
def mergeSourced : List Sourced → List Sourced → List Sourced
  | merged, [] => merged
  | merged, entry :: rest =>
      if TurnedAway (merged.map Prod.snd) entry.2 then mergeSourced merged rest
      else mergeSourced (merged ++ [(entry.1, adjusted entry.2)]) rest

/-- The merged evidence by its rank, each with its source. -/
def ranked (responses : List KnowledgeSourceResponse) : List Sourced :=
  sortedBy (fun entry => rank entry.2) (mergeSourced [] (sourced responses))

/-- How many are from the internal source. -/
def internals (entries : List Sourced) : Nat :=
  (entries.filter (·.1 = .internalRag)).length

theorem sourced_snd {responses : List KnowledgeSourceResponse} :
    (sourced responses).map Prod.snd = itemsOf responses := by
  simp [sourced, itemsOf, List.map_flatMap, Function.comp_def]

theorem mergeSourced_snd {merged entries : List Sourced} :
    (mergeSourced merged entries).map Prod.snd =
      KnowledgeEvidenceMerger.mergeInto (merged.map Prod.snd) (entries.map Prod.snd) := by
  induction entries generalizing merged with
  | nil => rfl
  | cons entry rest ih =>
      rw [mergeSourced, List.map_cons, KnowledgeEvidenceMerger.mergeInto]
      split_ifs
      · exact ih
      · rw [ih, List.map_append, List.map_singleton]

/-- **Evidence is merged with its sources as without.** -/
theorem ranked_snd {responses : List KnowledgeSourceResponse} {count : Nat} :
    ((ranked responses).take count).map Prod.snd = merge responses count := by
  rw [merge, List.map_take, ← sourced_snd, ranked, sortedBy]
  rw [List.map_insertionSort (fun one two : Sourced => rank one.2 ≤ rank two.2)
    (fun one two => rank one ≤ rank two) Prod.snd _ fun _ _ _ _ => Iff.rfl, mergeSourced_snd]
  rfl

theorem internals_append {one two : List Sourced} :
    internals (one ++ two) = internals one + internals two := by
  rw [internals, List.filter_append, List.length_append]
  rfl

theorem internals_sourced {responses : List KnowledgeSourceResponse} :
    internals (sourced responses) =
      ((responses.filter (·.route = .internalRag)).map (·.evidence.length)).sum := by
  induction responses with
  | nil => rfl
  | cons response rest ih =>
      rw [sourced, List.flatMap_cons, internals_append]
      by_cases isInternal : response.route = .internalRag
      · rw [List.filter_cons_of_pos (by simpa using isInternal), List.map_cons, List.sum_cons, ← ih]
        simp [internals, isInternal, sourced, List.filter_map, Function.comp_def]
      · rw [List.filter_cons_of_neg (by simpa using isInternal), ← ih]
        simp [internals, isInternal, sourced, List.filter_map, Function.comp_def]

/-- No internal evidence is turned away. -/
def InternalAdmitted (merged entries : List Sourced) : Prop :=
  ∀ before entry after, entries = before ++ entry :: after → entry.1 = .internalRag →
    ¬ TurnedAway ((mergeSourced merged before).map Prod.snd) entry.2

/-- What is merged after one more entry. -/
def mergedWith (merged : List Sourced) (entry : Sourced) : List Sourced :=
  if TurnedAway (merged.map Prod.snd) entry.2 then merged
  else merged ++ [(entry.1, adjusted entry.2)]

theorem mergeSourced_cons {merged rest : List Sourced} {entry : Sourced} :
    mergeSourced merged (entry :: rest) = mergeSourced (mergedWith merged entry) rest := by
  rw [mergeSourced, mergedWith]
  split_ifs <;> rfl

theorem internalAdmitted_cons {merged rest : List Sourced} {entry : Sourced} :
    InternalAdmitted merged (entry :: rest) ↔
      (entry.1 = .internalRag → ¬ TurnedAway (merged.map Prod.snd) entry.2) ∧
        InternalAdmitted (mergedWith merged entry) rest := by
  constructor
  · intro admitted
    refine ⟨admitted [] entry rest rfl, fun before other after split => ?_⟩
    rw [← mergeSourced_cons]
    exact admitted (entry :: before) other after (congrArg _ split)
  · rintro ⟨first, later⟩ before other after split
    cases before with
    | nil =>
        obtain ⟨rfl, -⟩ := List.cons.inj split
        exact first
    | cons own before =>
        obtain ⟨rfl, isRest⟩ := List.cons.inj split
        rw [mergeSourced_cons]
        exact later before other after isRest

/-- As many internal pieces are merged as there are, exactly if none is turned away. -/
theorem internals_mergeSourced {merged entries : List Sourced} :
    internals (mergeSourced merged entries) ≤ internals merged + internals entries ∧
      (internals (mergeSourced merged entries) = internals merged + internals entries ↔
        InternalAdmitted merged entries) := by
  induction entries generalizing merged with
  | nil => exact ⟨le_rfl, iff_of_true rfl fun before entry after split => by simp at split⟩
  | cons entry rest ih =>
      obtain ⟨atMost, same⟩ := @ih (mergedWith merged entry)
      have others : internals (entry :: rest) = internals [entry] + internals rest :=
        @internals_append [entry] rest
      rw [mergeSourced_cons, internalAdmitted_cons, ← same, others]
      have own : internals (mergedWith merged entry) ≤ internals merged + internals [entry] ∧
          (internals (mergedWith merged entry) = internals merged + internals [entry] ↔
            (entry.1 = .internalRag → ¬ TurnedAway (merged.map Prod.snd) entry.2)) := by
        by_cases isInternal : entry.1 = .internalRag
        · have one : internals [entry] = 1 := by simp [internals, isInternal]
          unfold mergedWith
          split_ifs with turned
          · exact ⟨by omega, iff_of_false (by omega) fun admitted => admitted isInternal turned⟩
          · rw [internals_append]
            have added : internals [(entry.1, adjusted entry.2)] = 1 := by
              simp [internals, isInternal]
            exact ⟨by omega, iff_of_true (by omega) fun _ => turned⟩
        · have none : internals [entry] = 0 := by simp [internals, isInternal]
          have added : internals [(entry.1, adjusted entry.2)] = 0 := by
            simp [internals, isInternal]
          have kept : internals (mergedWith merged entry) = internals merged := by
            unfold mergedWith
            split_ifs
            · rfl
            · rw [internals_append, added, Nat.add_zero]
          exact ⟨by omega, iff_of_true (by omega) fun internal => absurd internal isInternal⟩
      rw [← own.2]
      omega

/-! ## Accounts -/

/-- The account of a package is right: each selected source is executed or denied, the counts are
those of the merged evidence, and a success is one of every source, without conflict or gap. -/
structure Accounts (service : KnowledgeRouterService) (query : KnowledgeQuery)
    (granted : List String) (gathered : Gathered) (package : KnowledgeEvidencePackage) : Prop where
  partition : ∀ route ∈ package.executionSummary.selectedSources,
    Xor (route ∈ package.executionSummary.executedSources)
      (route ∈ package.executionSummary.deniedSources)
  internalCount : package.executionSummary.internalResultCount =
    internals ((ranked (service.responses query granted gathered)).take query.maxResults)
  mcpCount : package.executionSummary.mcpResultCount =
    (((ranked (service.responses query granted gathered)).take query.maxResults).filter
      (·.1 ≠ .internalRag)).length
  sum : package.executionSummary.internalResultCount + package.executionSummary.mcpResultCount =
    package.evidenceCount
  success : package.executionSummary.status = .success →
    package.executionSummary.executedSources = package.executionSummary.selectedSources ∧
    (∃ execution, gathered = .executed execution ∧
      ∀ route ∈ package.executionSummary.selectedSources,
        ((execution route).response route).success = true) ∧
    package.conflicts = [] ∧ package.gaps = []

/-- No internal evidence is turned away, and none is below the cut. -/
def InternalKept (responses : List KnowledgeSourceResponse) (maxResults : Nat) : Prop :=
  InternalAdmitted [] (sourced responses) ∧
    ∀ entry ∈ (ranked responses).drop maxResults, entry.1 ≠ .internalRag

variable {responses : List KnowledgeSourceResponse} {maxResults : Nat}

/-- The internal evidence of the responses is that of the result exactly if it is all kept. -/
theorem internals_ranked_iff : internals (sourced responses) =
    internals ((ranked responses).take maxResults) ↔ InternalKept responses maxResults := by
  obtain ⟨atMost, same⟩ := @internals_mergeSourced [] (sourced responses)
  have whole : internals (ranked responses) = internals (mergeSourced [] (sourced responses)) :=
    (perm_sortedBy.filter _).length_eq
  have parts := @internals_append ((ranked responses).take maxResults)
    ((ranked responses).drop maxResults)
  rw [List.take_append_drop, whole] at parts
  have below : internals ((ranked responses).drop maxResults) = 0 ↔
      ∀ entry ∈ (ranked responses).drop maxResults, entry.1 ≠ .internalRag := by
    rw [internals, List.length_eq_zero_iff, List.filter_eq_nil_iff]
    simp only [decide_eq_true_eq, ne_eq]
  have none : internals [] = 0 := rfl
  rw [InternalKept, ← same, ← below]
  omega

theorem length_eq_internals {entries : List Sourced} :
    entries.length = internals entries + (entries.filter (·.1 ≠ .internalRag)).length := by
  rw [internals, List.length_eq_length_filter_add fun entry => entry.1 = .internalRag]
  simp only [ne_eq, decide_not]

variable {service : KnowledgeRouterService} {query : KnowledgeQuery} {granted : List String}
  {gathered : Gathered} {package : KnowledgeEvidencePackage}

/-- Each selected source is asked or not. -/
theorem KnowledgeRouterService.xor_allowed {route : KnowledgeRoute}
    (isSelected : route ∈ service.selected query) :
    Xor (route ∈ service.allowed query granted) (route ∈ service.denied query granted) := by
  simp only [allowed, denied, List.mem_filter, isSelected, true_and]
  cases service.asks granted route <;> simp [Xor]

/-- The fields of the package of a query. -/
structure KnowledgeRouterService.Routes (service : KnowledgeRouterService) (query : KnowledgeQuery)
    (granted : List String) (gathered : Gathered) (package : KnowledgeEvidencePackage) :
    Prop where
  evidence : package.evidence = merge (service.responses query granted gathered) query.maxResults
  evidenceCount : package.evidenceCount = package.evidence.length
  selected : package.executionSummary.selectedSources = service.selected query
  executed : package.executionSummary.executedSources = service.allowed query granted
  denied : package.executionSummary.deniedSources = service.denied query granted
  internalCount : package.executionSummary.internalResultCount =
    internals (sourced (service.responses query granted gathered))
  mcpCount : package.executionSummary.mcpResultCount =
    package.evidence.length - package.executionSummary.internalResultCount
  success : package.executionSummary.status = .success → package.evidence ≠ [] ∧
    (∀ response ∈ service.responses query granted gathered, response.success = true) ∧
    service.denied query granted = [] ∧ package.conflicts = [] ∧ package.gaps = []

theorem KnowledgeRouterService.routes
    (routed : service.route query granted gathered = .ok package) :
    service.Routes query granted gathered package := by
  simp only [route, bind_eq_ok_iff, exists_unit_iff, pure_eq_ok_iff] at routed
  obtain ⟨-, rfl⟩ := routed
  refine ⟨rfl, rfl, rfl, rfl, rfl, congrArg Nat.cast internals_sourced.symm, rfl, fun success => ?_⟩
  dsimp only at success ⊢
  split_ifs at success with none lacks
  refine ⟨none, ?_⟩
  simpa [and_assoc, responses] using lacks

theorem KnowledgeRouterService.merge_timedOut (service : KnowledgeRouterService) :
    merge (service.responses query granted .timedOut) query.maxResults = [] :=
  List.take_nil

/-- **The account of a package is right exactly if all internal evidence is kept.** -/
theorem accounts_iff (routed : service.route query granted gathered = .ok package) :
    Accounts service query granted gathered package ↔
      InternalKept (service.responses query granted gathered) query.maxResults := by
  have routes := KnowledgeRouterService.routes routed
  have lengths := congrArg List.length (@ranked_snd (service.responses query granted gathered)
    query.maxResults)
  rw [List.length_map, length_eq_internals, ← routes.evidence] at lengths
  have internalCount := routes.internalCount
  have mcpCount := routes.mcpCount
  have evidenceCount := routes.evidenceCount
  rw [← internals_ranked_iff]
  refine ⟨fun accounts => ?_, fun kept => ⟨?_, ?_, ?_, ?_, fun success => ?_⟩⟩
  · have counted := accounts.internalCount
    omega
  · rw [routes.selected, routes.executed, routes.denied]
    exact fun route => KnowledgeRouterService.xor_allowed
  · omega
  · omega
  · omega
  · obtain ⟨some_, succeeded, noneDenied, noConflict, noGap⟩ := routes.success success
    have all : service.allowed query granted = service.selected query := by
      refine List.filter_eq_self.mpr fun route isSelected => ?_
      have asked := List.filter_eq_nil_iff.mp noneDenied route isSelected
      simpa using asked
    rw [routes.executed, routes.selected]
    refine ⟨all, ?_, noConflict, noGap⟩
    cases gathered with
    | timedOut =>
        have none := routes.evidence
        rw [service.merge_timedOut] at none
        exact absurd none some_
    | executed execution =>
        refine ⟨execution, rfl, fun route isSelected => succeeded _ ?_⟩
        exact List.mem_map_of_mem
          (all ▸ isSelected)

namespace Sample

/-- A service with an executor for the internal source, and a query for it. -/
def routerService : KnowledgeRouterService := ⟨[.internalRag], id⟩

def policyQuery : KnowledgeQuery where
  queryText := "정책".toList

/-- The internal source answers. -/
def answering (evidence : List KnowledgeEvidence) : Gathered :=
  .executed fun _ => .answers { route := .internalRag, evidence := evidence, success := true }

end Sample

open Sample in
theorem accounts_iff_one : ∃ package,
    routerService.route policyQuery ["knowledge.read"] (answering [ofDocument "a" (1 / 5)]) =
      .ok package ∧
    (Accounts routerService policyQuery ["knowledge.read"] (answering [ofDocument "a" (1 / 5)])
        package ↔
      InternalKept (routerService.responses policyQuery ["knowledge.read"]
        (answering [ofDocument "a" (1 / 5)])) policyQuery.maxResults) :=
  ⟨_, rfl, accounts_iff rfl⟩

open Sample in
/-- One piece of evidence that is answered twice counts for two internal ones, and so for less than
none of the other sources. -/
theorem not_accounts : ∃ package,
    routerService.route policyQuery ["knowledge.read"]
      (answering [ofDocument "a" (1 / 5), ofDocument "a" (1 / 5)]) = .ok package ∧
    package.executionSummary.mcpResultCount = -1 ∧
    ¬ Accounts routerService policyQuery ["knowledge.read"]
      (answering [ofDocument "a" (1 / 5), ofDocument "a" (1 / 5)]) package := by
  have below : ∃ package, routerService.route policyQuery ["knowledge.read"]
      (answering [ofDocument "a" (1 / 5), ofDocument "a" (1 / 5)]) = .ok package ∧
      package.executionSummary.mcpResultCount = -1 := ⟨_, rfl, by decide +kernel⟩
  obtain ⟨package, routed, counted⟩ := below
  refine ⟨package, routed, counted, fun accounts => ?_⟩
  have counts := accounts.mcpCount
  omega

end PolicyOS.Knowledge.Router
