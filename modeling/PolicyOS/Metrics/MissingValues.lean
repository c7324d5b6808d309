import PolicyOS.Metrics.AggregationClassification

/-!
# One object for an identifier

A bundle lists the windows, groupings, lineages and provenances of its requests, and the requests
hold them as well. They are compared by their identifiers, from the requests to the lists: a
bundle is consistent if its lists are gathered from its requests.
-/

namespace PolicyOS.Metrics

open Foundation

variable {bundle : MetricAggregationBundle} {source : MetricResultBundle}
  {policies : List MetricAggregationPolicy}

/-! ## Listed and embedded objects -/

section Denotes

variable {Item Key : Type} [DecidableEq Item] [LinearOrder Key] {identity : Item → UUID}
  {order : Item → Key} {listed embedded : List Item}

/-- Every embedded object is the listed one of its identifier, and every listed identifier is
that of an embedded object. -/
structure Denotes (identity : Item → UUID) (listed embedded : List Item) : Prop where
  resolved : ∀ item ∈ embedded, ∃ entry ∈ listed, identity entry = identity item
  same : ∀ item ∈ embedded, ∀ entry ∈ listed, identity entry = identity item → entry = item
  used : ∀ entry ∈ listed, ∃ item ∈ embedded, identity item = identity entry

omit [DecidableEq Item] in
theorem Denotes.mem_iff (denotes : Denotes identity listed embedded) (item : Item) :
    item ∈ listed ↔ item ∈ embedded := by
  constructor
  · intro isListed
    obtain ⟨used, isUsed, same⟩ := denotes.used item isListed
    exact (denotes.same used isUsed item isListed same.symm) ▸ isUsed
  · intro isEmbedded
    obtain ⟨entry, isListed, same⟩ := denotes.resolved item isEmbedded
    exact (denotes.same item isEmbedded entry isListed same) ▸ isListed

/-- Objects listed in order and by distinct identifiers are those embedded exactly if they are
the distinct embedded ones in order. -/
theorem denotes_iff (ordered : listed = sortedBy order listed)
    (distinct : (listed.map identity).Nodup)
    (keyed : ∀ {first second}, order first = order second → identity first = identity second) :
    Denotes identity listed embedded ↔ listed = sortedBy order embedded.dedup := by
  constructor
  · intro denotes
    have perm : listed.Perm embedded.dedup :=
      (List.perm_ext_iff_of_nodup (List.Nodup.of_map _ distinct) (List.nodup_dedup _)).mpr
        fun item => (denotes.mem_iff item).trans List.mem_dedup.symm
    have keys : (listed.map order).Nodup := by
      refine (List.nodup_map_iff_inj_on (List.Nodup.of_map _ distinct)).mpr ?_
      intro first isFirst second isSecond same
      exact List.inj_on_of_nodup_map distinct isFirst isSecond (keyed same)
    exact ordered.trans (sortedBy_eq_of_perm perm keys)
  · intro gathered
    have members : ∀ item, item ∈ listed ↔ item ∈ embedded := by
      intro item
      rw [gathered, mem_sortedBy, List.mem_dedup]
    refine ⟨fun item isEmbedded => ⟨item, (members item).mpr isEmbedded, rfl⟩, ?_,
      fun entry isListed => ⟨entry, (members entry).mp isListed, rfl⟩⟩
    intro item isEmbedded entry isListed same
    exact List.inj_on_of_nodup_map distinct isListed ((members item).mpr isEmbedded) same

end Denotes

/-! ## Consistent bundles -/

namespace MetricAggregationBundle

variable (bundle : MetricAggregationBundle)

/-- The windows of the requests. -/
def embeddedWindows : List MetricAggregationWindow :=
  bundle.aggregationRequests.map (·.aggregationWindow)

/-- The groupings of the requests. -/
def embeddedGroupings : List MetricAggregationGroupingSpecification :=
  bundle.aggregationRequests.filterMap (·.groupingSpecification)

/-- The lineages of the requests. -/
def embeddedLineages : List MetricAggregationLineageReference :=
  bundle.aggregationRequests.map (·.lineageReference)

/-- The provenances of the requests. -/
def embeddedProvenances : List MetricAggregationProvenanceReference :=
  bundle.aggregationRequests.map (·.provenanceReference)

end MetricAggregationBundle

/-- What windows are ordered by. -/
def windowOrder (window : MetricAggregationWindow) : ℕ ×ₗ UUID :=
  toLex (MetricAggregationWindowType.members.idxOf window.windowType, window.aggregationWindowId)

/-- An identifier denotes one object of a bundle, each listed object is used, and a record is
made by the policy of its request. -/
structure ConsistentBundle (bundle : MetricAggregationBundle)
    (policies : List MetricAggregationPolicy) : Prop where
  windows : Denotes (·.aggregationWindowId) bundle.aggregationWindows bundle.embeddedWindows
  groupings : Denotes (·.groupingSpecificationId) bundle.groupingSpecifications
    bundle.embeddedGroupings
  lineages : Denotes (·.aggregationLineageReferenceId) bundle.lineageReferences
    bundle.embeddedLineages
  provenances : Denotes (·.aggregationProvenanceReferenceId) bundle.provenanceReferences
    bundle.embeddedProvenances
  policies : ∀ record ∈ bundle.aggregationRecords, ∃ request policy,
    bundle.requestOf record = some request ∧
      lookup (·.aggregationPolicyId) policies record.aggregationPolicyId = some policy ∧
      lookup (·.aggregationPolicyId) policies request.aggregationPolicyId = some policy

/-- The lists of a bundle are gathered from its requests: the distinct objects they hold, in
order. -/
structure GatheredBundle (bundle : MetricAggregationBundle) : Prop where
  windows : bundle.aggregationWindows = sortedBy windowOrder bundle.embeddedWindows.dedup
  groupings : bundle.groupingSpecifications =
    sortedBy (·.groupingSpecificationId) bundle.embeddedGroupings.dedup
  lineages : bundle.lineageReferences =
    sortedBy (·.aggregationLineageReferenceId) bundle.embeddedLineages.dedup
  provenances : bundle.provenanceReferences =
    sortedBy (·.aggregationProvenanceReferenceId) bundle.embeddedProvenances.dedup

theorem of_validateCollection {Item Key : Type} [DecidableEq Item] [LinearOrder Key]
    {name : String} {order : Item → Key} {identity : Item → UUID} {items : List Item}
    (valid : validateCollection name order identity items = .ok ()) :
    items = sortedBy order items ∧ (items.map identity).Nodup := by
  simpa only [validateCollection, bind_eq_ok_iff, exists_unit_iff, rejectIf_eq_ok_iff,
    not_not] using valid

/-- The record of an accepted bundle has a policy, and its request has one. -/
theorem exists_policies {record : MetricAggregationRecord}
    (valid : validateMetricAggregationBundle bundle source policies = .ok ())
    (listed : record ∈ bundle.aggregationRecords) :
    ∃ request own asked, bundle.requestOf record = some request ∧
      lookup (·.aggregationPolicyId) policies record.aggregationPolicyId = some own ∧
      lookup (·.aggregationPolicyId) policies request.aggregationPolicyId = some asked := by
  simp only [validateMetricAggregationBundle, bind_eq_ok_iff, exists_unit_iff,
    checkEach_eq_ok_iff] at valid
  obtain ⟨-, -, requests, records, -, -⟩ := valid
  obtain ⟨request, isRequest⟩ := exists_requestOf (records record listed)
  obtain ⟨own, isOwn, -⟩ := record_validated (records record listed) isRequest
  have asked := requests request (lookup_eq_some isRequest).1
  unfold MetricAggregationBundle.validateRequest at asked
  split at asked
  · cases asked
  · rename_i asking isAsking
    exact ⟨request, own, asking, isRequest, isOwn, isAsking⟩

namespace Sample

/-- The window, made earlier. -/
def earlierWindow : MetricAggregationWindow :=
  { window with createdAt := 2, contract := by decide }

/-- The bundle, listing another window under the identifier of the one of its request. -/
def relistedBundle : MetricAggregationBundle :=
  { bundleOf .internal with aggregationWindows := [earlierWindow] }

end Sample

end PolicyOS.Metrics

/-!
# Missing values

A request is checked against the missing-value policy it names, and only against the two
policies that reject a missing input; its minimum counts the inputs with and without a value.
The record answering it names a policy of its own, whose method and output type it has to have.
-/

namespace PolicyOS.Metrics

open Foundation

variable {bundle : MetricAggregationBundle} {source : MetricResultBundle}
  {policies : List MetricAggregationPolicy}

/-! ## The inputs of a record -/

/-- The results some references name. -/
def resultsOf (source : MetricResultBundle) (references : List MetricAggregationInputReference) :
    List MetricResult :=
  references.filterMap fun reference =>
    lookup (·.metricResultId) source.results reference.metricResultId

/-- The results a record names, by the references of its request. -/
def MetricAggregationBundle.inputsOf (bundle : MetricAggregationBundle)
    (source : MetricResultBundle) (record : MetricAggregationRecord) : List MetricResult :=
  match bundle.requestOf record with
  | none => []
  | some request => resultsOf source (request.inputReferences.filter
      (·.aggregationInputReferenceId ∈ record.inputReferenceIds))

/-- The inputs that have a value. -/
def recordedAmong (inputs : List MetricResult) : List MetricResult :=
  inputs.filter (·.status = .recorded)

/-- A policy is honoured by the inputs of a record. -/
structure MetricAggregationPolicy.HonouredBy (policy : MetricAggregationPolicy)
    (inputs : List MetricResult) : Prop where
  distinct : (inputs.map (·.metricResultId)).Nodup
  defined : ∀ input ∈ inputs, input.metricDefinitionId = policy.metricDefinitionId
  enough : policy.minimumResultCount ≤ (recordedAmong inputs).length
  complete : policy.missingValuePolicy ∈
      [.propagateUnavailable, .requireAllRecorded, .rejectMissing] →
    ∀ input ∈ inputs, input.status = .recorded

/-- The policy a record names is honoured by its inputs. -/
def MissingValuesHonoured (bundle : MetricAggregationBundle) (source : MetricResultBundle)
    (policies : List MetricAggregationPolicy) (record : MetricAggregationRecord) : Prop :=
  ∃ policy, lookup (·.aggregationPolicyId) policies record.aggregationPolicyId = some policy ∧
    policy.HonouredBy (bundle.inputsOf source record)

/-! ## What an accepted request selects -/

variable {policy : MetricAggregationPolicy} {request : MetricAggregationRequest}

/-- What a reference selects is the result it names, of the metric of the policy. -/
theorem of_selectInput {reference : MetricAggregationInputReference} {result : MetricResult}
    (selected : MetricAggregationRequest.selectInput source policy reference = .ok result) :
    lookup (·.metricResultId) source.results reference.metricResultId = some result ∧
      result.metricDefinitionId = policy.metricDefinitionId := by
  unfold MetricAggregationRequest.selectInput at selected
  split at selected
  · cases selected
  · rename_i named isNamed
    simp only [bind_eq_ok_iff, exists_unit_iff, rejectIf_eq_ok_iff, not_or, not_not,
      pure_eq_ok_iff] at selected
    obtain ⟨-, ⟨ofMetric, -⟩, rfl⟩ := selected
    exact ⟨isNamed, ofMetric⟩

/-- The selected results are those the references name. -/
theorem resultsOf_of_collectEach {references : List MetricAggregationInputReference}
    {selected : List MetricResult}
    (collected : collectEach (MetricAggregationRequest.selectInput source policy) references =
      .ok selected) :
    resultsOf source references = selected := by
  induction collectEach_eq_ok_iff.mp collected with
  | nil => rfl
  | @cons reference result references results computed rest ih =>
      have named : lookup (·.metricResultId) source.results reference.metricResultId =
          some result := (of_selectInput computed).1
      have others := ih (collectEach_eq_ok_iff.mpr rest)
      simp only [resultsOf, List.filterMap_cons, named] at others ⊢
      rw [others]

/-- The inputs of an accepted request fit the policy it names. -/
structure InputsSelected (source : MetricResultBundle) (request : MetricAggregationRequest)
    (policy : MetricAggregationPolicy) : Prop where
  distinct : ((resultsOf source request.inputReferences).map (·.metricResultId)).Nodup
  defined : ∀ input ∈ resultsOf source request.inputReferences,
    input.metricDefinitionId = policy.metricDefinitionId
  enough : policy.minimumResultCount ≤ (resultsOf source request.inputReferences).length
  complete : policy.missingValuePolicy ∈ [.rejectMissing, .requireAllRecorded] →
    ∀ input ∈ resultsOf source request.inputReferences, input.status = .recorded

/-- The inputs of an accepted request fit its policy: none is named twice as the lineage of the
request lists them in order and without repetition. -/
theorem inputsSelected_of_validate
    (valid : validateMetricAggregationRequest request source policy = .ok ()) :
    InputsSelected source request policy := by
  simp only [validateMetricAggregationRequest, bind_eq_ok_iff, exists_unit_iff] at valid
  obtain ⟨-, valid⟩ := valid
  split at valid
  · cases valid
  simp only [bind_eq_ok_iff, exists_unit_iff, MetricAggregationRequest.validateSelected,
    validateMetricAggregationLineageReference, rejectIf_eq_ok_iff, not_or, not_not,
    not_lt] at valid
  obtain ⟨-, -, -, selected, collected, ⟨counted, -, unmissed, -⟩, ⟨-, -, -, listed, -⟩, -⟩ :=
    valid
  have isSelected := resultsOf_of_collectEach collected
  refine ⟨?_, ?_, ?_, ?_⟩ <;> rw [isSelected]
  · have canonical := request.lineageReference.canonical.2
    rw [listed] at canonical
    exact perm_sortedBy.nodup_iff.mp canonical
  · intro input isInput
    obtain ⟨_, -, selects⟩ := mem_of_collectEach collected isInput
    exact (of_selectInput selects).2
  · exact counted
  · intro rejects input isInput
    by_contra missing
    exact unmissed ⟨⟨input, isInput, missing⟩, rejects⟩

/-- A record of an accepted bundle answers a request of it, and names all its inputs. -/
structure RecordAnswers (bundle : MetricAggregationBundle) (source : MetricResultBundle)
    (policies : List MetricAggregationPolicy) (record : MetricAggregationRecord)
    (request : MetricAggregationRequest) (own asked : MetricAggregationPolicy) : Prop where
  answers : bundle.requestOf record = some request
  named : lookup (·.aggregationPolicyId) policies record.aggregationPolicyId = some own
  asks : lookup (·.aggregationPolicyId) policies request.aggregationPolicyId = some asked
  selected : InputsSelected source request asked
  inputs : bundle.inputsOf source record = resultsOf source request.inputReferences

/-- A record of an accepted bundle answers a request of it. -/
theorem exists_recordAnswers {record : MetricAggregationRecord}
    (valid : validateMetricAggregationBundle bundle source policies = .ok ())
    (listed : record ∈ bundle.aggregationRecords) :
    ∃ request own asked, RecordAnswers bundle source policies record request own asked := by
  simp only [validateMetricAggregationBundle, bind_eq_ok_iff, exists_unit_iff,
    checkEach_eq_ok_iff] at valid
  obtain ⟨-, -, requests, records, -, -⟩ := valid
  have checked := records record listed
  obtain ⟨request, isRequest⟩ := exists_requestOf checked
  have asked := requests request (lookup_eq_some isRequest).1
  unfold MetricAggregationBundle.validateRequest at asked
  split at asked
  · cases asked
  rename_i asking isAsking
  simp only [bind_eq_ok_iff, exists_unit_iff] at asked
  simp only [MetricAggregationBundle.validateRecord, isRequest] at checked
  split at checked
  · cases checked
  rename_i own isOwn
  simp only [bind_eq_ok_iff, exists_unit_iff, validateMetricAggregationRecord,
    rejectIf_eq_ok_iff, not_or, not_not] at checked
  obtain ⟨⟨⟨-, -, -, -, -, -, -, named, -⟩, -⟩, -⟩ := checked
  refine ⟨request, own, asking, isRequest, isOwn, isAsking,
    inputsSelected_of_validate asked.2, ?_⟩
  have all : request.inputReferences.filter
      (·.aggregationInputReferenceId ∈ record.inputReferenceIds) = request.inputReferences := by
    refine List.filter_eq_self.mpr fun reference isReference => decide_eq_true ?_
    rw [named, mem_sortedBy]
    exact List.mem_map_of_mem isReference
  rw [MetricAggregationBundle.inputsOf, isRequest]
  simp only [all]

/-! ## When the policy is honoured -/

/-- The policy of a record fits its inputs: it is for the metric of the policy of the request and
asks for no more inputs than there are, and where one is without a value it excludes such inputs
and is left with enough of them. -/
structure MetricAggregationPolicy.Fits (own asked : MetricAggregationPolicy)
    (inputs : List MetricResult) : Prop where
  metric : own.metricDefinitionId = asked.metricDefinitionId
  counted : own.minimumResultCount ≤ inputs.length
  missing : (∃ input ∈ inputs, input.status ≠ .recorded) →
    own.missingValuePolicy = .excludeUnavailable ∧
      own.minimumResultCount ≤ (recordedAmong inputs).length

/-- The policy of a record fits the inputs of the record and the policy of its request. -/
def PoliciesFit (bundle : MetricAggregationBundle) (source : MetricResultBundle)
    (policies : List MetricAggregationPolicy) (record : MetricAggregationRecord) : Prop :=
  ∃ request own asked, bundle.requestOf record = some request ∧
    lookup (·.aggregationPolicyId) policies record.aggregationPolicyId = some own ∧
    lookup (·.aggregationPolicyId) policies request.aggregationPolicyId = some asked ∧
    own.Fits asked (bundle.inputsOf source record)

theorem recordedAmong_eq_self {inputs : List MetricResult}
    (complete : ∀ input ∈ inputs, input.status = .recorded) : recordedAmong inputs = inputs :=
  List.filter_eq_self.mpr fun input isInput => decide_eq_true (complete input isInput)

/-- A policy that fits is honoured. -/
theorem MetricAggregationPolicy.Fits.honoured {own asked : MetricAggregationPolicy}
    (selected : InputsSelected source request asked)
    (fits : own.Fits asked (resultsOf source request.inputReferences)) :
    own.HonouredBy (resultsOf source request.inputReferences) := by
  refine ⟨selected.distinct, fun input isInput => ?_, ?_, fun strict => ?_⟩
  · exact (selected.defined input isInput).trans fits.metric.symm
  · by_cases missing : ∃ input ∈ resultsOf source request.inputReferences,
        input.status ≠ .recorded
    · exact (fits.missing missing).2
    · simp only [not_exists, not_and, not_not] at missing
      rw [recordedAmong_eq_self missing]
      exact fits.counted
  · intro input isInput
    by_contra missing
    rw [(fits.missing ⟨input, isInput, missing⟩).1] at strict
    exact absurd strict (by decide)

/-- A policy that is honoured fits, as there is an input to be of its metric. -/
theorem MetricAggregationPolicy.HonouredBy.fits {own asked : MetricAggregationPolicy}
    (selected : InputsSelected source request asked)
    (honoured : own.HonouredBy (resultsOf source request.inputReferences)) :
    own.Fits asked (resultsOf source request.inputReferences) := by
  refine ⟨?_, honoured.enough.trans (List.length_filter_le ..), ?_⟩
  · obtain ⟨input, isInput⟩ := List.exists_mem_of_length_pos (asked.counting.trans selected.enough)
    exact (honoured.defined input isInput).symm.trans (selected.defined input isInput)
  · rintro ⟨input, isInput, missing⟩
    refine ⟨?_, honoured.enough⟩
    by_contra other
    refine missing (honoured.complete ?_ input isInput)
    cases isPolicy : own.missingValuePolicy <;> simp_all

/-- The missing values of an aggregate are dealt with as its policy says exactly if the
policy fits: a missing input is only refused to requests of two of the policies, the minimum
counts missing inputs, and no record has to name the policy of its request. -/
theorem missingValuesHonoured_iff {record : MetricAggregationRecord}
    (valid : validateMetricAggregationBundle bundle source policies = .ok ())
    (listed : record ∈ bundle.aggregationRecords) :
    MissingValuesHonoured bundle source policies record ↔
      PoliciesFit bundle source policies record := by
  obtain ⟨request, own, asked, answer⟩ := exists_recordAnswers valid listed
  constructor
  · rintro ⟨policy, named, honoured⟩
    obtain rfl : own = policy := Option.some.inj (answer.named.symm.trans named)
    rw [answer.inputs] at honoured
    refine ⟨request, own, asked, answer.answers, answer.named, answer.asks, ?_⟩
    rw [answer.inputs]
    exact honoured.fits answer.selected
  · rintro ⟨other, policy, asking, answers, named, asks, fits⟩
    obtain rfl : request = other := Option.some.inj (answer.answers.symm.trans answers)
    obtain rfl : own = policy := Option.some.inj (answer.named.symm.trans named)
    obtain rfl : asked = asking := Option.some.inj (answer.asks.symm.trans asks)
    rw [answer.inputs] at fits
    exact ⟨own, named, by simpa only [answer.inputs] using fits.honoured answer.selected⟩

namespace Sample

/-- The result of the observation, without a value. -/
def missingResult : MetricResult :=
  { result with
    value := none
    status := .unavailable
    reasonCodes := ["missing"]
    valued := by decide
    unreasoned := by decide
    reasoned := by decide
    invalidation := by decide
    typed := by decide }

/-- The policy that propagates missing values. -/
def propagatingPolicy : MetricAggregationPolicy :=
  { meanPolicy with missingValuePolicy := .propagateUnavailable }

/-- The bundle of the result without a value. -/
def missingBundle : MetricResultBundle :=
  { resultBundle with
    results := [missingResult]
    aggregationPolicies := [propagatingPolicy] }

end Sample

/-- An aggregate of a recorded result is accepted, and its policy honoured exactly if it fits. -/
theorem missingValuesHonoured_iff_recorded :
    validateMetricAggregationBundle (Sample.bundleOf .internal) Sample.resultBundle
        [Sample.meanPolicy] = .ok () ∧
      (MissingValuesHonoured (Sample.bundleOf .internal) Sample.resultBundle [Sample.meanPolicy]
          Sample.record ↔
        PoliciesFit (Sample.bundleOf .internal) Sample.resultBundle [Sample.meanPolicy]
          Sample.record) :=
  ⟨by decide +kernel, missingValuesHonoured_iff (by decide +kernel)
    (List.mem_singleton.mpr rfl)⟩

/-- An aggregate is accepted as recorded though its one input has no value and its policy
propagates that. -/
theorem missing_not_propagated :
    validateMetricAggregationBundle (Sample.bundleOf .internal) Sample.missingBundle
        [Sample.propagatingPolicy] = .ok () ∧
      Sample.record ∈ (Sample.bundleOf .internal).aggregationRecords ∧
      Sample.record.status = .recorded ∧
      ¬ MissingValuesHonoured (Sample.bundleOf .internal) Sample.missingBundle
        [Sample.propagatingPolicy] Sample.record := by
  refine ⟨by decide +kernel, List.mem_singleton.mpr rfl, rfl, ?_⟩
  rintro ⟨policy, named, honoured⟩
  obtain rfl : Sample.propagatingPolicy = policy := Option.some.inj named
  have isRecorded := honoured.complete (by decide) Sample.missingResult
    (by decide +kernel)
  exact absurd isRecorded (by decide)

end PolicyOS.Metrics
