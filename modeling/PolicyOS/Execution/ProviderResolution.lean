import PolicyOS.Execution.Validation
import PolicyOS.Foundation.SortedBy

/-!
# Provider resolution

Every provider of a catalog is evaluated against the requirement of a step: what speaks against
it is collected, and without any such reason it is eligible. The candidates are ranked, cut off
at the limit of the policy, and the first eligible one is selected.
-/

namespace PolicyOS.Execution.Resolution

open Foundation

/-- Whether a provider can be used, as observed. -/
inductive AvailabilityStatus
  | available | degraded | unavailable | disabled | unknown
  deriving DecidableEq, Repr

/-- What a provider can do. -/
structure ProviderCapability where
  capabilityId : String
  enabled : Bool := true
  priorityOverride : Option Nat := none
  maximumInputClassification : DataClassification := .restricted
  supportsCitations : Bool := false
  supportsStructuredOutput : Bool := false
  deriving DecidableEq

/-- A provider, with what a resolution reads of it; the executor reads its kind. Nothing reads
whether it supports streaming. -/
structure ProviderDescriptor where
  providerId : String
  capabilities : List ProviderCapability
  minimumClassification : DataClassification := .public
  maximumClassification : DataClassification := .restricted
  allowedOrganizationIds : List UUID := []
  deniedOrganizationIds : List UUID := []
  priority : Nat := 100
  costTier : Nat := 0
  latencyTier : Nat := 0
  reliabilityTier : Nat := 0
  supportsStreaming : Bool := false
  supportsIdempotency : Bool := false
  enabled : Bool := true
  canonicalCapabilities : capabilities ≠ [] ∧
    (capabilities.map (·.capabilityId)).Pairwise (· < ·) := by decide
  validScope : notLower maximumClassification minimumClassification ∧
    ∀ organizationId ∈ allowedOrganizationIds, organizationId ∉ deniedOrganizationIds := by decide
  deriving DecidableEq

/-- The capability of a provider by its identifier. -/
def ProviderDescriptor.capability (provider : ProviderDescriptor) (capabilityId : String) :
    Option ProviderCapability :=
  provider.capabilities.find? (·.capabilityId = capabilityId)

/-- The most providers a catalog may have. -/
def maxProviders : Nat := 500

/-- The exception classes of a resolution. -/
inductive ProviderErrorKind
  | duplicateProvider | providerPolicy | noEligibleProvider | providerDecision | validation
  deriving DecidableEq, Repr

/-- A typed failure of a resolution with its message. -/
structure ProviderError where
  kind : ProviderErrorKind
  message : String
  deriving DecidableEq, Repr

/-- The providers of a catalog, in the order of their identifiers. -/
structure ProviderCatalog where
  providers : List ProviderDescriptor
  canonical : (providers.map (·.providerId)).Pairwise (· < ·) := by decide
  bounded : providers.length ≤ maxProviders := by decide
  deriving DecidableEq

/-- A catalog of providers in any order. -/
def ProviderCatalog.fromProviders (providers : List ProviderDescriptor) :
    Except ProviderError ProviderCatalog :=
  let ordered := sortedBy (·.providerId) providers
  if few : ordered.length ≤ maxProviders then
    if canonical : (ordered.map (·.providerId)).Pairwise (· < ·) then
      .ok { providers := ordered, canonical := canonical, bounded := few }
    else .error ⟨.duplicateProvider, "Provider catalog contains a duplicate provider ID"⟩
  else .error ⟨.validation, "provider catalog exceeds limit"⟩

/-- What was observed of a provider. -/
structure ProviderAvailability where
  providerId : String
  status : AvailabilityStatus
  observedAt : DateTime
  validUntil : Option DateTime := none
  validWindow : ∀ until_ ∈ validUntil, observedAt ≤ until_ := by decide
  deriving DecidableEq

/-- What was observed, by provider. -/
structure ProviderAvailabilitySnapshot where
  entries : List ProviderAvailability := []
  canonical : (entries.map (·.providerId)).Pairwise (· < ·) := by decide
  deriving DecidableEq

/-- What was observed of a provider, if it was. -/
def ProviderAvailabilitySnapshot.get (snapshot : ProviderAvailabilitySnapshot)
    (providerId : String) : Option ProviderAvailability :=
  snapshot.entries.find? (·.providerId = providerId)

/-- What a step requires of its provider. -/
structure ProviderRequirement where
  capabilityId : String
  classification : DataClassification
  organizationId : UUID
  requiredCitations : Bool := false
  requiredStructuredOutput : Bool := false
  requiredIdempotency : Bool := false
  maximumCostTier : Option Nat := none
  maximumLatencyTier : Option Nat := none
  preferredProviderIds : List String := []
  excludedProviderIds : List String := []
  policyId : String
  executionId : UUID
  stepId : String
  required : Bool := true
  validPreferences : ∀ providerId ∈ preferredProviderIds, providerId ∉ excludedProviderIds := by
    decide
  deriving DecidableEq

/-- How providers are selected. -/
structure ProviderSelectionPolicy where
  policyId : String
  selectionVersion : String := "1"
  allowDegraded : Bool := false
  allowUnknownAvailability : Bool := false
  requireEnabled : Bool := true
  preferLowerCost : Bool := true
  preferLowerLatency : Bool := true
  preferHigherReliability : Bool := true
  preferredProviderIds : List String := []
  excludedProviderIds : List String := []
  fallbackAllowed : Bool := true
  maximumCandidates : Nat := 100
  boundedCandidates : 1 ≤ maximumCandidates ∧ maximumCandidates ≤ 500 := by decide
  validIds : ∀ providerId ∈ preferredProviderIds, providerId ∉ excludedProviderIds := by decide
  deriving DecidableEq

/-- What candidates are ranked by: preference, availability, priority, reliability, latency,
cost and identifier. -/
abbrev ProviderRank := Nat ×ₗ Nat ×ₗ Nat ×ₗ Int ×ₗ Nat ×ₗ Nat ×ₗ String

/-- An evaluated provider. -/
structure ProviderCandidate where
  providerId : String
  eligible : Bool
  rank : ProviderRank
  reasonCodes : List String := []
  availabilityStatus : AvailabilityStatus
  capabilityId : String
  classificationSupported : Bool
  organizationAllowed : Bool
  deriving DecidableEq

/-- The data of a decision. -/
structure ProviderSelectionDecisionFields where
  capabilityId : String
  selectedProviderId : Option String := none
  candidates : List ProviderCandidate
  policyId : String
  selectionVersion : String
  deterministicRank : Option ProviderRank := none
  warnings : List String := []
  evaluatedAt : DateTime
  executionId : UUID
  stepId : String
  deriving DecidableEq

/-- The checks a decision makes on itself. -/
def ProviderSelectionDecisionFields.validSelection (decision : ProviderSelectionDecisionFields) :
    Except ProviderError Unit := do
  let first := (decision.candidates.filter (·.eligible)).head?
  rejectIf (∃ candidate ∈ first, decision.selectedProviderId ≠ some candidate.providerId)
    ⟨.providerDecision, "Selected provider must be the first eligible candidate"⟩
  rejectIf (first = none ∧ decision.selectedProviderId ≠ none)
    ⟨.providerDecision, "Unbound decision cannot select a provider"⟩
  rejectIf (decision.selectedProviderId ≠ none ∧
      decision.deterministicRank ≠ first.map (·.rank))
    ⟨.providerDecision, "Decision rank does not match selected provider"⟩

/-- A decision. -/
structure ProviderSelectionDecision extends ProviderSelectionDecisionFields where
  valid : toProviderSelectionDecisionFields.validSelection = .ok ()
  deriving DecidableEq

/-- Build a decision, raising what it checks on itself. -/
def ProviderSelectionDecision.validated (fields : ProviderSelectionDecisionFields) :
    Except ProviderError ProviderSelectionDecision :=
  buildChecked fields.validSelection fun valid =>
    { toProviderSelectionDecisionFields := fields, valid }

/-! ## The evaluation of a provider -/

/-- A reason, where it applies. -/
def reasonIf (applies : Prop) [Decidable applies] (reason : String) : List String :=
  if applies then [reason] else []

/-- A reason that does not apply is not given. -/
@[simp] theorem reasonIf_eq_nil_iff {applies : Prop} [Decidable applies] {reason : String} :
    reasonIf applies reason = [] ↔ ¬ applies := by
  simp [reasonIf]

section Candidate

variable (requirement : ProviderRequirement) (snapshot : Option ProviderAvailabilitySnapshot)
  (policy : ProviderSelectionPolicy) (evaluatedAt : DateTime) (provider : ProviderDescriptor)

/-- What was observed of the provider. -/
def observed : Option ProviderAvailability :=
  snapshot.bind fun entries => entries.get provider.providerId

/-- An observation is no longer valid. -/
def stale (availability : ProviderAvailability) : Prop :=
  ∃ validUntil ∈ availability.validUntil, validUntil ≤ evaluatedAt

instance (availability : ProviderAvailability) : Decidable (stale evaluatedAt availability) :=
  inferInstanceAs (Decidable (∃ _ ∈ availability.validUntil, _))

/-- The availability of the provider, and what speaks against it. -/
def availabilityOf : AvailabilityStatus × List String :=
  let availability := observed snapshot provider
  let status := (availability.map (·.status)).getD .unknown
  if ∃ entry ∈ availability, stale evaluatedAt entry then (.unknown, ["availability_stale"])
  else if status ∈ [.unavailable, .disabled] then (status, ["provider_unavailable"])
  else if status = .degraded ∧ policy.allowDegraded = false then (status, ["provider_degraded"])
  else if status = .unknown ∧ policy.allowUnknownAvailability = false then
    (status, ["availability_unknown"])
  else (status, [])

/-- The provider and its capability take data of the classification. -/
def classificationSupported (capability : Option ProviderCapability) : Prop :=
  ∃ supported ∈ capability,
    notLower requirement.classification provider.minimumClassification ∧
      notLower provider.maximumClassification requirement.classification ∧
        notLower supported.maximumInputClassification requirement.classification

instance (capability : Option ProviderCapability) :
    Decidable (classificationSupported requirement provider capability) :=
  inferInstanceAs (Decidable (∃ _ ∈ capability, _))

/-- The provider may be used by the organization. -/
def organizationAllowed : Prop :=
  requirement.organizationId ∉ provider.deniedOrganizationIds ∧
    (provider.allowedOrganizationIds = [] ∨
      requirement.organizationId ∈ provider.allowedOrganizationIds)

instance : Decidable (organizationAllowed requirement provider) :=
  inferInstanceAs (Decidable (_ ∧ _))

/-- What speaks against a provider, in order. -/
def reasonsAgainst : List String :=
  let capability := provider.capability requirement.capabilityId
  List.flatten
    [reasonIf (∀ supported ∈ capability, supported.enabled = false) "capability_not_supported",
      reasonIf (policy.requireEnabled = true ∧ provider.enabled = false) "provider_disabled",
      (availabilityOf snapshot policy evaluatedAt provider).2,
      reasonIf (¬ classificationSupported requirement provider capability)
        "classification_not_supported",
      reasonIf (¬ organizationAllowed requirement provider) "organization_not_allowed",
      reasonIf (∃ supported ∈ capability, requirement.requiredCitations = true ∧
        supported.supportsCitations = false) "required_citations_not_supported",
      reasonIf (∃ supported ∈ capability, requirement.requiredStructuredOutput = true ∧
        supported.supportsStructuredOutput = false) "required_structured_output_not_supported",
      reasonIf (requirement.requiredIdempotency = true ∧ provider.supportsIdempotency = false)
        "required_idempotency_not_supported",
      reasonIf (provider.providerId ∈ requirement.excludedProviderIds ∨
        provider.providerId ∈ policy.excludedProviderIds) "excluded_by_policy",
      reasonIf (∃ limit ∈ requirement.maximumCostTier, limit < provider.costTier)
        "cost_limit_exceeded",
      reasonIf (∃ limit ∈ requirement.maximumLatencyTier, limit < provider.latencyTier)
        "latency_limit_exceeded"]

/-- The rank of a provider. -/
def rankOf : ProviderRank :=
  let preferred := provider.providerId ∈ requirement.preferredProviderIds ∨
    provider.providerId ∈ policy.preferredProviderIds
  let availabilityRank := match (availabilityOf snapshot policy evaluatedAt provider).1 with
    | .available => 0
    | .degraded => 1
    | _ => 2
  let priority := ((provider.capability requirement.capabilityId).bind
    (·.priorityOverride)).getD provider.priority
  toLex (if preferred then 0 else 1, toLex (availabilityRank, toLex (priority,
    toLex (if policy.preferHigherReliability then -(provider.reliabilityTier : Int) else 0,
      toLex (if policy.preferLowerLatency then provider.latencyTier else 0,
        toLex (if policy.preferLowerCost then provider.costTier else 0,
          provider.providerId))))))

/-- The candidate of a provider. -/
def candidate : ProviderCandidate where
  providerId := provider.providerId
  eligible := reasonsAgainst requirement snapshot policy evaluatedAt provider = []
  rank := rankOf requirement snapshot policy evaluatedAt provider
  reasonCodes := reasonsAgainst requirement snapshot policy evaluatedAt provider
  availabilityStatus := (availabilityOf snapshot policy evaluatedAt provider).1
  capabilityId := requirement.capabilityId
  classificationSupported :=
    Resolution.classificationSupported requirement provider
      (provider.capability requirement.capabilityId)
  organizationAllowed := Resolution.organizationAllowed requirement provider

end Candidate

/-! ## The resolution -/

/-- The candidates that are reported: without a fallback, no eligible one but the selected. -/
def reportedCandidates (policy : ProviderSelectionPolicy) (candidates : List ProviderCandidate) :
    List ProviderCandidate :=
  match (candidates.filter (·.eligible)).head? with
  | some first =>
      if policy.fallbackAllowed then candidates
      else first :: candidates.filter (¬ ·.eligible)
  | none => candidates

/-- Resolve the provider of a step. -/
def resolve (requirement : ProviderRequirement) (catalog : ProviderCatalog)
    (availability : Option ProviderAvailabilitySnapshot) (policy : ProviderSelectionPolicy)
    (evaluatedAt : DateTime) : Except ProviderError ProviderSelectionDecision := do
  rejectIf (requirement.policyId ≠ policy.policyId)
    ⟨.providerPolicy, "Requirement and selection policy identities do not match"⟩
  let candidates := (ranked (·.eligible) (·.rank)
    (catalog.providers.map (candidate requirement availability policy evaluatedAt))).take
      policy.maximumCandidates
  let selected := (candidates.filter (·.eligible)).head?
  rejectIf (selected = none ∧ requirement.required = true)
    ⟨.noEligibleProvider, "No eligible provider for capability " ++ requirement.capabilityId ++
      " at step " ++ requirement.stepId⟩
  ProviderSelectionDecision.validated
    { capabilityId := requirement.capabilityId
      selectedProviderId := selected.map (·.providerId)
      candidates := reportedCandidates policy candidates
      policyId := policy.policyId
      selectionVersion := policy.selectionVersion
      deterministicRank := selected.map (·.rank)
      warnings := if selected = none then ["optional_capability_unavailable"] else []
      evaluatedAt := evaluatedAt
      executionId := requirement.executionId
      stepId := requirement.stepId }

end PolicyOS.Execution.Resolution
