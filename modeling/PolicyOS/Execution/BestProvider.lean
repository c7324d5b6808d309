import PolicyOS.Execution.ProviderResolution

/-!
# The best provider

The resolution selects the one provider of least rank among those nothing speaks against. It
depends on these providers only: not on the order of the catalog, on others in it, or on how
many candidates are reported.
-/

namespace PolicyOS.Execution.Resolution

open Foundation

variable {requirement : ProviderRequirement} {catalog : ProviderCatalog}
  {snapshot : Option ProviderAvailabilitySnapshot} {policy : ProviderSelectionPolicy}
  {evaluatedAt : DateTime} {provider : ProviderDescriptor}

/-! ## Eligible providers -/

/-- The provider has been observed to be available, and the observation still holds; where it is
degraded or not known, the policy allows it. -/
structure Available (snapshot : Option ProviderAvailabilitySnapshot)
    (policy : ProviderSelectionPolicy) (evaluatedAt : DateTime) (provider : ProviderDescriptor) :
    Prop where
  fresh : ∀ entry ∈ observed snapshot provider, ∀ validUntil ∈ entry.validUntil,
    evaluatedAt < validUntil
  usable : ∀ entry ∈ observed snapshot provider, entry.status ∉ [.unavailable, .disabled] ∧
    (entry.status = .degraded → policy.allowDegraded = true) ∧
    (entry.status = .unknown → policy.allowUnknownAvailability = true)
  known : observed snapshot provider = none → policy.allowUnknownAvailability = true

/-- The provider meets the constraints on its capability, its state, its scope, citations,
exclusions and limits. -/
structure Admissible (requirement : ProviderRequirement)
    (snapshot : Option ProviderAvailabilitySnapshot) (policy : ProviderSelectionPolicy)
    (evaluatedAt : DateTime) (provider : ProviderDescriptor) : Prop where
  capable : ∃ supported ∈ provider.capability requirement.capabilityId,
    supported.enabled = true ∧
      notLower supported.maximumInputClassification requirement.classification ∧
      (requirement.requiredCitations = true → supported.supportsCitations = true)
  enabled : policy.requireEnabled = true → provider.enabled = true
  available : Available snapshot policy evaluatedAt provider
  classified : notLower requirement.classification provider.minimumClassification ∧
    notLower provider.maximumClassification requirement.classification
  allowed : requirement.organizationId ∉ provider.deniedOrganizationIds ∧
    (provider.allowedOrganizationIds ≠ [] →
      requirement.organizationId ∈ provider.allowedOrganizationIds)
  included : provider.providerId ∉ requirement.excludedProviderIds ∧
    provider.providerId ∉ policy.excludedProviderIds
  affordable : ∀ limit ∈ requirement.maximumCostTier, provider.costTier ≤ limit
  prompt : ∀ limit ∈ requirement.maximumLatencyTier, provider.latencyTier ≤ limit

/-- The provider meets every constraint: also those on structured output and idempotency. -/
structure Eligible (requirement : ProviderRequirement)
    (snapshot : Option ProviderAvailabilitySnapshot) (policy : ProviderSelectionPolicy)
    (evaluatedAt : DateTime) (provider : ProviderDescriptor) : Prop
    extends Admissible requirement snapshot policy evaluatedAt provider where
  structured : ∀ supported ∈ provider.capability requirement.capabilityId,
    requirement.requiredStructuredOutput = true → supported.supportsStructuredOutput = true
  idempotent : requirement.requiredIdempotency = true → provider.supportsIdempotency = true

/-- Nothing speaks against the availability of an available provider. -/
theorem availabilityOf_eq_nil_iff :
    (availabilityOf snapshot policy evaluatedAt provider).2 = [] ↔
      Available snapshot policy evaluatedAt provider := by
  have unopposed : (availabilityOf snapshot policy evaluatedAt provider).2 = [] ↔
      (¬ ∃ entry ∈ observed snapshot provider, stale evaluatedAt entry) ∧
        let status := ((observed snapshot provider).map (·.status)).getD .unknown
        status ∉ [.unavailable, .disabled] ∧
          ¬ (status = .degraded ∧ policy.allowDegraded = false) ∧
          ¬ (status = .unknown ∧ policy.allowUnknownAvailability = false) := by
    unfold availabilityOf
    dsimp only
    split
    · rename_i isStale
      exact ⟨fun given => absurd given (by simp), fun given => absurd isStale given.1⟩
    · rename_i isFresh
      rw [and_iff_right isFresh]
      split_ifs with unusable degraded unknown
      · exact ⟨fun given => absurd given (by simp), fun given => absurd unusable given.1⟩
      · exact ⟨fun given => absurd given (by simp), fun given => absurd degraded given.2.1⟩
      · exact ⟨fun given => absurd given (by simp), fun given => absurd unknown given.2.2⟩
      · exact ⟨fun _ => ⟨unusable, degraded, unknown⟩, fun _ => rfl⟩
  rw [unopposed]
  cases seen : observed snapshot provider with
  | none =>
      constructor
      · rintro ⟨-, -, -, known⟩
        exact ⟨by simp [seen], by simp [seen], fun _ => by simpa using known⟩
      · rintro ⟨-, -, known⟩
        simpa using known seen
  | some entry =>
      constructor
      · rintro ⟨fresh, usable, degraded, unknown⟩
        refine ⟨?_, ?_, by simp [seen]⟩
        · simpa [seen, stale] using fresh
        · rw [seen]
          rintro _ ⟨⟩
          exact ⟨usable, by simpa using degraded, by simpa using unknown⟩
      · rintro ⟨fresh, usable, -⟩
        obtain ⟨isUsable, degraded, unknown⟩ := usable entry seen
        refine ⟨?_, isUsable, by simpa using degraded, by simpa using unknown⟩
        simpa [seen, stale] using fresh

/-- A candidate is eligible exactly if its provider meets every constraint. -/
theorem candidate_eligible_iff :
    (candidate requirement snapshot policy evaluatedAt provider).eligible = true ↔
      Eligible requirement snapshot policy evaluatedAt provider := by
  have unopposed : (candidate requirement snapshot policy evaluatedAt provider).eligible = true ↔
      reasonsAgainst requirement snapshot policy evaluatedAt provider = [] := decide_eq_true_iff
  simp only [unopposed, reasonsAgainst, List.flatten_eq_nil_iff, List.forall_mem_cons,
    reasonIf_eq_nil_iff, availabilityOf_eq_nil_iff, not_not]
  constructor
  · rintro ⟨capable, enabled, available, ⟨supported, isSupported, classified, scope, input⟩,
      ⟨notDenied, allowed⟩, cited, structured, idempotent, included, affordable, prompt, -⟩
    have found := Option.mem_def.mp isSupported
    exact
      { capable := ⟨supported, isSupported, by simpa [found] using capable, input,
          by simpa [found] using cited⟩
        enabled := by simpa using enabled
        available := available
        classified := ⟨classified, scope⟩
        allowed := ⟨notDenied, fun restricted => allowed.resolve_left restricted⟩
        included := not_or.mp included
        affordable := by simpa using affordable
        prompt := by simpa using prompt
        structured := by simpa using structured
        idempotent := by simpa using idempotent }
  · intro eligible
    obtain ⟨supported, isSupported, isEnabled, input, cited⟩ := eligible.capable
    refine ⟨fun none => ?_, by simpa using eligible.enabled, eligible.available,
      ⟨supported, isSupported, eligible.classified.1, eligible.classified.2, input⟩,
      ⟨eligible.allowed.1, or_iff_not_imp_left.mpr eligible.allowed.2⟩, ?_,
      by simpa using eligible.structured, by simpa using eligible.idempotent,
      not_or.mpr eligible.included, by simpa using eligible.affordable,
      by simpa using eligible.prompt, by simp⟩
    · exact absurd (none supported isSupported) (by simp [isEnabled])
    · rintro ⟨other, isOther, required, unsupported⟩
      obtain rfl := Option.mem_unique isSupported isOther
      exact absurd (cited required) (by simp [unsupported])

/-! ## The selected provider -/

/-- The provider of least rank among the eligible ones of a catalog. -/
structure BestProvider (requirement : ProviderRequirement) (catalog : ProviderCatalog)
    (snapshot : Option ProviderAvailabilitySnapshot) (policy : ProviderSelectionPolicy)
    (evaluatedAt : DateTime) (provider : ProviderDescriptor) : Prop where
  listed : provider ∈ catalog.providers
  eligible : Eligible requirement snapshot policy evaluatedAt provider
  least : ∀ other ∈ catalog.providers, Eligible requirement snapshot policy evaluatedAt other →
    other ≠ provider → rankOf requirement snapshot policy evaluatedAt provider <
      rankOf requirement snapshot policy evaluatedAt other

theorem rankOf_injective {first second : ProviderDescriptor}
    (isFirst : first ∈ catalog.providers) (isSecond : second ∈ catalog.providers)
    (same : rankOf requirement snapshot policy evaluatedAt first =
      rankOf requirement snapshot policy evaluatedAt second) : first = second := by
  have ids : first.providerId = second.providerId := by
    simp only [rankOf, toLex_inj, Prod.mk.injEq] at same
    exact same.2.2.2.2.2.2
  have distinct : (catalog.providers.map (·.providerId)).Nodup :=
    catalog.canonical.imp fun increases => ne_of_lt increases
  exact List.inj_on_of_nodup_map distinct isFirst isSecond ids

theorem BestProvider.unique {first second : ProviderDescriptor}
    (isFirst : BestProvider requirement catalog snapshot policy evaluatedAt first)
    (isSecond : BestProvider requirement catalog snapshot policy evaluatedAt second) :
    first = second := by
  by_contra different
  exact lt_asymm (isFirst.least second isSecond.listed isSecond.eligible (Ne.symm different))
    (isSecond.least first isFirst.listed isFirst.eligible different)

/-- The best candidate is that of the best provider. -/
theorem best_candidate {best : ProviderCandidate}
    (isBest : Best (·.eligible) (·.rank)
      (catalog.providers.map (candidate requirement snapshot policy evaluatedAt)) best) :
    ∃ provider, BestProvider requirement catalog snapshot policy evaluatedAt provider ∧
      candidate requirement snapshot policy evaluatedAt provider = best := by
  obtain ⟨provider, listed, rfl⟩ := List.mem_map.mp isBest.listed
  refine ⟨provider, ⟨listed, candidate_eligible_iff.mp isBest.isEligible, ?_⟩, rfl⟩
  intro other isOther eligible different
  refine lt_of_le_of_ne (isBest.least _ (List.mem_map_of_mem isOther)
    (candidate_eligible_iff.mpr eligible)) fun same => ?_
  exact different (rankOf_injective listed isOther same).symm

/-- The candidates of a catalog that a policy reports. -/
def listedCandidates (requirement : ProviderRequirement) (catalog : ProviderCatalog)
    (snapshot : Option ProviderAvailabilitySnapshot) (policy : ProviderSelectionPolicy)
    (evaluatedAt : DateTime) : List ProviderCandidate :=
  (ranked (·.eligible) (·.rank)
    (catalog.providers.map (candidate requirement snapshot policy evaluatedAt))).take
      policy.maximumCandidates

/-- The first eligible one of them. -/
def selectedCandidate (requirement : ProviderRequirement) (catalog : ProviderCatalog)
    (snapshot : Option ProviderAvailabilitySnapshot) (policy : ProviderSelectionPolicy)
    (evaluatedAt : DateTime) : Option ProviderCandidate :=
  ((listedCandidates requirement catalog snapshot policy evaluatedAt).filter (·.eligible)).head?

theorem selectedCandidate_eq_none_iff :
    selectedCandidate requirement catalog snapshot policy evaluatedAt = none ↔
      ∀ provider ∈ catalog.providers,
        ¬ Eligible requirement snapshot policy evaluatedAt provider := by
  rw [selectedCandidate, listedCandidates, head_eq_none_iff policy.boundedCandidates.1,
    List.forall_mem_map]
  simp only [← candidate_eligible_iff, Bool.not_eq_true]

theorem selectedCandidate_eq_some {selected : ProviderCandidate}
    (chosen : selectedCandidate requirement catalog snapshot policy evaluatedAt =
      some selected) :
    ∃ provider, BestProvider requirement catalog snapshot policy evaluatedAt provider ∧
      candidate requirement snapshot policy evaluatedAt provider = selected :=
  best_candidate (best_of_head chosen)

/-- Dropping the fallbacks keeps the first eligible candidate. -/
theorem head_reportedCandidates {candidates : List ProviderCandidate} :
    ((reportedCandidates policy candidates).filter (·.eligible)).head? =
      (candidates.filter (·.eligible)).head? := by
  unfold reportedCandidates
  cases chosen : (candidates.filter (·.eligible)).head? with
  | none => exact chosen
  | some first =>
      have isEligible : first.eligible = true := List.of_mem_filter (List.mem_of_head? chosen)
      dsimp only
      split
      · exact chosen
      · rw [List.filter_cons_of_pos isEligible]
        rfl

theorem validSelection_of_first {fields : ProviderSelectionDecisionFields}
    {first : Option ProviderCandidate}
    (isFirst : (fields.candidates.filter (·.eligible)).head? = first)
    (selected : fields.selectedProviderId = first.map (·.providerId))
    (byRank : fields.deterministicRank = first.map (·.rank)) :
    fields.validSelection = .ok () := by
  simp only [ProviderSelectionDecisionFields.validSelection, isFirst, selected, byRank,
    bind_eq_ok_iff, exists_unit_iff, rejectIf_eq_ok_iff]
  cases first <;> simp

/-- A matching resolution is refused for want of an eligible provider only, and decides
otherwise for the first eligible candidate. -/
theorem resolve_cases (matching : requirement.policyId = policy.policyId) :
    (selectedCandidate requirement catalog snapshot policy evaluatedAt = none ∧
      requirement.required = true ∧
      resolve requirement catalog snapshot policy evaluatedAt = .error
        ⟨.noEligibleProvider, "No eligible provider for capability " ++ requirement.capabilityId ++
          " at step " ++ requirement.stepId⟩) ∨
    (¬ (selectedCandidate requirement catalog snapshot policy evaluatedAt = none ∧
        requirement.required = true) ∧
      ∃ decision, resolve requirement catalog snapshot policy evaluatedAt = .ok decision ∧
        decision.selectedProviderId =
          (selectedCandidate requirement catalog snapshot policy evaluatedAt).map
            (·.providerId)) := by
  by_cases refused : selectedCandidate requirement catalog snapshot policy evaluatedAt = none ∧
      requirement.required = true
  · refine .inl ⟨refused.1, refused.2, ?_⟩
    simp only [resolve, bind_eq_error_iff, exists_unit_iff, rejectIf_eq_ok_iff, not_not]
    exact .inr ⟨matching, .inl (rejectIf_eq_error_iff.mpr ⟨refused, rfl⟩)⟩
  · have valid : ProviderSelectionDecisionFields.validSelection
        { capabilityId := requirement.capabilityId
          selectedProviderId := (selectedCandidate requirement catalog snapshot policy
            evaluatedAt).map (·.providerId)
          candidates := reportedCandidates policy
            (listedCandidates requirement catalog snapshot policy evaluatedAt)
          policyId := policy.policyId
          selectionVersion := policy.selectionVersion
          deterministicRank := (selectedCandidate requirement catalog snapshot policy
            evaluatedAt).map (·.rank)
          warnings := if selectedCandidate requirement catalog snapshot policy evaluatedAt = none
            then ["optional_capability_unavailable"] else []
          evaluatedAt := evaluatedAt
          executionId := requirement.executionId
          stepId := requirement.stepId } = .ok () :=
        validSelection_of_first head_reportedCandidates rfl rfl
    refine .inr ⟨refused, ⟨_, valid⟩, ?_, rfl⟩
    simp only [resolve, bind_eq_ok_iff, exists_unit_iff, rejectIf_eq_ok_iff, not_not]
    exact ⟨matching, refused, buildChecked_eq_ok_iff.mpr ⟨valid, rfl⟩⟩

/-- Policies that differ in how many candidates they report only. -/
def SameButLimit (policy other : ProviderSelectionPolicy) : Prop :=
  other = { policy with
    maximumCandidates := other.maximumCandidates
    boundedCandidates := other.boundedCandidates }

variable {other : ProviderSelectionPolicy}

theorem SameButLimit.eligible_iff (same : SameButLimit policy other) :
    Eligible requirement snapshot other evaluatedAt provider ↔
      Eligible requirement snapshot policy evaluatedAt provider := by
  rw [← candidate_eligible_iff, ← candidate_eligible_iff, same]
  exact Iff.rfl

theorem SameButLimit.rankOf_eq (same : SameButLimit policy other) :
    rankOf requirement snapshot other evaluatedAt provider =
      rankOf requirement snapshot policy evaluatedAt provider := by
  rw [same]
  rfl

/-- What a resolution selects: the best provider, none where no provider is eligible, and the
same from every catalog with the same eligible providers, whatever its order, its other
providers and the limit of reported candidates. -/
structure SelectsBest (requirement : ProviderRequirement) (catalog : ProviderCatalog)
    (snapshot : Option ProviderAvailabilitySnapshot) (policy : ProviderSelectionPolicy)
    (evaluatedAt : DateTime) : Prop where
  selected : ∀ decision, resolve requirement catalog snapshot policy evaluatedAt = .ok decision →
    ∀ providerId, decision.selectedProviderId = some providerId ↔
      ∃! provider, BestProvider requirement catalog snapshot policy evaluatedAt provider ∧
        provider.providerId = providerId
  decided : (∃ decision, resolve requirement catalog snapshot policy evaluatedAt = .ok decision ∧
    decision.selectedProviderId ≠ none) ↔
      ∃ provider ∈ catalog.providers, Eligible requirement snapshot policy evaluatedAt provider
  unbound : (∃ decision, resolve requirement catalog snapshot policy evaluatedAt = .ok decision ∧
    decision.selectedProviderId = none) ↔ requirement.required = false ∧
      ∀ provider ∈ catalog.providers, ¬ Eligible requirement snapshot policy evaluatedAt provider
  refused : (∃ error, resolve requirement catalog snapshot policy evaluatedAt = .error error ∧
    error.kind = .noEligibleProvider) ↔ requirement.required = true ∧
      ∀ provider ∈ catalog.providers, ¬ Eligible requirement snapshot policy evaluatedAt provider
  noOther : ∀ error, resolve requirement catalog snapshot policy evaluatedAt = .error error →
    error.kind = .noEligibleProvider
  valid : ∀ decision, resolve requirement catalog snapshot policy evaluatedAt = .ok decision →
    decision.toProviderSelectionDecisionFields.validSelection = .ok ()
  independent : ∀ others other, SameButLimit policy other →
    (∀ provider, provider ∈ catalog.providers ∧
        Eligible requirement snapshot policy evaluatedAt provider ↔
      provider ∈ others.providers ∧
        Eligible requirement snapshot policy evaluatedAt provider) →
    (resolve requirement others snapshot other evaluatedAt).map (·.selectedProviderId) =
      (resolve requirement catalog snapshot policy evaluatedAt).map (·.selectedProviderId)
  ordered : ∀ listed, listed.Perm catalog.providers →
    ProviderCatalog.fromProviders listed = .ok catalog

/-- A best provider is best in every catalog with the same eligible providers. -/
theorem BestProvider.transfer {others : ProviderCatalog} (same : SameButLimit policy other)
    (alike : ∀ provider, provider ∈ catalog.providers ∧
        Eligible requirement snapshot policy evaluatedAt provider ↔
      provider ∈ others.providers ∧ Eligible requirement snapshot policy evaluatedAt provider)
    (isBest : BestProvider requirement catalog snapshot policy evaluatedAt provider) :
    BestProvider requirement others snapshot other evaluatedAt provider := by
  refine ⟨((alike provider).mp ⟨isBest.listed, isBest.eligible⟩).1,
    same.eligible_iff.mpr isBest.eligible, fun rival isRival eligible different => ?_⟩
  rw [same.rankOf_eq, same.rankOf_eq]
  obtain ⟨listed, isEligible⟩ := (alike rival).mpr ⟨isRival, same.eligible_iff.mp eligible⟩
  exact isBest.least rival listed isEligible different

/-- The same provider is selected from every catalog with the same eligible providers. -/
theorem selected_eq_of_alike {others : ProviderCatalog} (same : SameButLimit policy other)
    (alike : ∀ provider, provider ∈ catalog.providers ∧
        Eligible requirement snapshot policy evaluatedAt provider ↔
      provider ∈ others.providers ∧ Eligible requirement snapshot policy evaluatedAt provider) :
    (selectedCandidate requirement others snapshot other evaluatedAt).map (·.providerId) =
      (selectedCandidate requirement catalog snapshot policy evaluatedAt).map (·.providerId) := by
  cases chosen : selectedCandidate requirement catalog snapshot policy evaluatedAt with
  | none =>
      have unbound := selectedCandidate_eq_none_iff.mp chosen
      have alsoUnbound : selectedCandidate requirement others snapshot other evaluatedAt = none := by
        refine selectedCandidate_eq_none_iff.mpr fun rival isRival eligible => ?_
        obtain ⟨listed, isEligible⟩ := (alike rival).mpr ⟨isRival, same.eligible_iff.mp eligible⟩
        exact unbound rival listed isEligible
      rw [alsoUnbound]
  | some selected =>
      obtain ⟨best, isBest, rfl⟩ := selectedCandidate_eq_some chosen
      have there := isBest.transfer same alike
      cases also : selectedCandidate requirement others snapshot other evaluatedAt with
      | none => exact absurd there.eligible (selectedCandidate_eq_none_iff.mp also _ there.listed)
      | some second =>
          obtain ⟨found, isFound, rfl⟩ := selectedCandidate_eq_some also
          rw [there.unique isFound]
          rfl

/-- What a resolution gives for a selected provider. -/
def selection (requirement : ProviderRequirement) (selected : Option String) :
    Except ProviderError (Option String) :=
  if selected = none ∧ requirement.required = true then
    .error ⟨.noEligibleProvider, "No eligible provider for capability " ++
      requirement.capabilityId ++ " at step " ++ requirement.stepId⟩
  else .ok selected

/-- A matching resolution gives what its selected candidate determines. -/
theorem resolve_map (matching : requirement.policyId = policy.policyId) :
    (resolve requirement catalog snapshot policy evaluatedAt).map (·.selectedProviderId) =
      selection requirement ((selectedCandidate requirement catalog snapshot policy
        evaluatedAt).map (·.providerId)) := by
  unfold selection
  rcases @resolve_cases requirement catalog snapshot policy evaluatedAt matching with
    ⟨unbound, isRequired, isError⟩ | ⟨allowed, decision, isOk, selects⟩
  · rw [isError, if_pos ⟨Option.map_eq_none_iff.mpr unbound, isRequired⟩]
    rfl
  · rw [isOk, if_neg fun refused => allowed ⟨Option.map_eq_none_iff.mp refused.1, refused.2⟩,
      ← selects]
    rfl

theorem fromProviders_of_perm {listed : List ProviderDescriptor}
    (same : listed.Perm catalog.providers) :
    ProviderCatalog.fromProviders listed = .ok catalog := by
  have distinct : (listed.map (·.providerId)).Nodup :=
    ((same.map _).nodup_iff).mpr (catalog.canonical.imp fun increases => ne_of_lt increases)
  have sorted : sortedBy (·.providerId) listed = catalog.providers := by
    rw [sortedBy_eq_of_perm same distinct]
    exact sortedBy_eq_self ((List.pairwise_map.mp catalog.canonical).imp le_of_lt)
  simp only [ProviderCatalog.fromProviders, sorted, catalog.bounded, catalog.canonical, dif_pos]

/-- The selected provider is the one best provider. -/
theorem selected_iff (providerId : String) :
    (∃ selected, selectedCandidate requirement catalog snapshot policy evaluatedAt =
        some selected ∧ selected.providerId = providerId) ↔
      ∃! provider, BestProvider requirement catalog snapshot policy evaluatedAt provider ∧
        provider.providerId = providerId := by
  constructor
  · rintro ⟨selected, chosen, rfl⟩
    obtain ⟨best, isBest, rfl⟩ := selectedCandidate_eq_some chosen
    exact ⟨best, ⟨isBest, rfl⟩, fun other isOther => isOther.1.unique isBest⟩
  · rintro ⟨best, ⟨isBest, rfl⟩, -⟩
    cases chosen : selectedCandidate requirement catalog snapshot policy evaluatedAt with
    | none =>
        exact absurd isBest.eligible (selectedCandidate_eq_none_iff.mp chosen best isBest.listed)
    | some selected =>
        obtain ⟨found, isFound, rfl⟩ := selectedCandidate_eq_some chosen
        exact ⟨_, rfl, by rw [isBest.unique isFound]; rfl⟩

/-- A matching resolution selects the best provider. -/
theorem selectsBest (requirement : ProviderRequirement) (catalog : ProviderCatalog)
    (snapshot : Option ProviderAvailabilitySnapshot) (policy : ProviderSelectionPolicy)
    (evaluatedAt : DateTime) (matching : requirement.policyId = policy.policyId) :
    SelectsBest requirement catalog snapshot policy evaluatedAt := by
  have noneEligible := @selectedCandidate_eq_none_iff requirement catalog snapshot policy
    evaluatedAt
  have independent : ∀ others other, SameButLimit policy other →
      (∀ provider, provider ∈ catalog.providers ∧
          Eligible requirement snapshot policy evaluatedAt provider ↔
        provider ∈ others.providers ∧
          Eligible requirement snapshot policy evaluatedAt provider) →
      (resolve requirement others snapshot other evaluatedAt).map (·.selectedProviderId) =
        (resolve requirement catalog snapshot policy evaluatedAt).map (·.selectedProviderId) := by
    intro others other same alike
    have alsoMatching : requirement.policyId = other.policyId := by
      rw [matching, same]
    rw [resolve_map matching, resolve_map alsoMatching, selected_eq_of_alike same alike]
  rcases @resolve_cases requirement catalog snapshot policy evaluatedAt matching with
    ⟨unbound, isRequired, isError⟩ | ⟨allowed, decision, isOk, selects⟩
  · have noneIs := noneEligible.mp unbound
    exact
      { selected := fun decision isOk => absurd (isError.symm.trans isOk) (by simp)
        decided := ⟨fun ⟨_, isOk, _⟩ => absurd (isError.symm.trans isOk) (by simp),
          fun ⟨provider, listed, eligible⟩ => absurd eligible (noneIs provider listed)⟩
        unbound := ⟨fun ⟨_, isOk, _⟩ => absurd (isError.symm.trans isOk) (by simp),
          fun ⟨optional, _⟩ => absurd (isRequired.symm.trans optional) (by simp)⟩
        refused := ⟨fun _ => ⟨isRequired, noneIs⟩, fun _ => ⟨_, isError, rfl⟩⟩
        noOther := fun error raised => by rw [← Except.error.inj (isError.symm.trans raised)]
        valid := fun decision _ => decision.valid
        independent := independent
        ordered := fun _ => fromProviders_of_perm }
  · have only : ∀ other, resolve requirement catalog snapshot policy evaluatedAt = .ok other →
        decision = other := fun other alsoOk => Except.ok.inj (isOk.symm.trans alsoOk)
    have bound : decision.selectedProviderId ≠ none ↔ ∃ provider ∈ catalog.providers,
        Eligible requirement snapshot policy evaluatedAt provider := by
      rw [selects, Ne, Option.map_eq_none_iff, noneEligible]
      simp only [not_forall, not_not, exists_prop]
    have unbound : decision.selectedProviderId = none ↔ ∀ provider ∈ catalog.providers,
        ¬ Eligible requirement snapshot policy evaluatedAt provider := by
      rw [selects, Option.map_eq_none_iff, noneEligible]
    exact
      { selected := by
          rintro _ alsoOk providerId
          rw [← only _ alsoOk, selects, Option.map_eq_some_iff]
          exact selected_iff providerId
        decided := ⟨fun ⟨_, alsoOk, isSelected⟩ => bound.mp (only _ alsoOk ▸ isSelected),
          fun some => ⟨decision, isOk, bound.mpr some⟩⟩
        unbound := by
          constructor
          · rintro ⟨_, alsoOk, unselected⟩
            rw [← only _ alsoOk] at unselected
            have noneIs := unbound.mp unselected
            refine ⟨Bool.not_eq_true _ ▸ fun isRequired => ?_, noneIs⟩
            exact allowed ⟨noneEligible.mpr noneIs, isRequired⟩
          · rintro ⟨-, noneIs⟩
            exact ⟨decision, isOk, unbound.mpr noneIs⟩
        refused := ⟨fun ⟨_, isError, _⟩ => absurd (isOk.symm.trans isError) (by simp),
          fun ⟨isRequired, noneIs⟩ =>
            absurd ⟨noneEligible.mpr noneIs, isRequired⟩ allowed⟩
        noOther := fun error raised => absurd (isOk.symm.trans raised) (by simp)
        valid := fun decision _ => decision.valid
        independent := independent
        ordered := fun _ => fromProviders_of_perm }

namespace Sample

/-- A provider of contract searches. -/
def searchProvider (providerId : String) (priority : Nat) (supportsStructuredOutput : Bool) :
    ProviderDescriptor where
  providerId := providerId
  capabilities :=
    [{ capabilityId := "contract.search", supportsStructuredOutput := supportsStructuredOutput }]
  priority := priority
  canonicalCapabilities := ⟨by simp, by simp⟩

/-- Two providers, of which only the second has structured output. -/
def searchCatalog : ProviderCatalog where
  providers := [searchProvider "knowledge.first" 10 false, searchProvider "knowledge.second" 20 true]

/-- Both were seen to be available. -/
def searchSnapshot : ProviderAvailabilitySnapshot where
  entries :=
    [{ providerId := "knowledge.first"
       status := .available
       observedAt := 1
       validUntil := some 9 },
      { providerId := "knowledge.second"
        status := .available
        observedAt := 1
        validUntil := some 9 }]

/-- A step that searches, and may require structured output. -/
def searchRequirement (requiredStructuredOutput : Bool) : ProviderRequirement where
  capabilityId := "contract.search"
  classification := .internal
  organizationId := 4
  requiredStructuredOutput := requiredStructuredOutput
  policyId := "default"
  executionId := 2
  stepId := "collect"

/-- The policy of its selection. -/
def searchPolicy : ProviderSelectionPolicy where
  policyId := "default"

end Sample

/-- The first provider is the best where structured output is not required. -/
theorem selectsBest_first :
    ∃! provider, BestProvider (Sample.searchRequirement false) Sample.searchCatalog
      (some Sample.searchSnapshot) Sample.searchPolicy 5 provider ∧
        provider.providerId = "knowledge.first" := by
  have decided : ((resolve (Sample.searchRequirement false) Sample.searchCatalog
      (some Sample.searchSnapshot) Sample.searchPolicy 5).toOption.map
        (·.selectedProviderId)) = some (some "knowledge.first") := by decide +kernel
  obtain ⟨decision, isDecision, isFirst⟩ := Option.map_eq_some_iff.mp decided
  exact ((selectsBest (Sample.searchRequirement false) Sample.searchCatalog
    (some Sample.searchSnapshot) Sample.searchPolicy 5 rfl).selected decision
      (eq_ok_of_mem_toOption isDecision) "knowledge.first").mp isFirst

/-- Where it is, the first provider still is the best of those that meet the other constraints,
but is not selected. -/
theorem unstructured_not_selected :
    (∃ first ∈ Sample.searchCatalog.providers,
      first.providerId = "knowledge.first" ∧
      Admissible (Sample.searchRequirement true) (some Sample.searchSnapshot) Sample.searchPolicy 5
        first ∧
      ∀ other ∈ Sample.searchCatalog.providers, other ≠ first →
        rankOf (Sample.searchRequirement true) (some Sample.searchSnapshot) Sample.searchPolicy 5
            first <
          rankOf (Sample.searchRequirement true) (some Sample.searchSnapshot) Sample.searchPolicy 5
            other) ∧
    ∃ decision, resolve (Sample.searchRequirement true) Sample.searchCatalog
        (some Sample.searchSnapshot) Sample.searchPolicy 5 = .ok decision ∧
      decision.selectedProviderId = some "knowledge.second" := by
  have decided : ((resolve (Sample.searchRequirement true) Sample.searchCatalog
      (some Sample.searchSnapshot) Sample.searchPolicy 5).toOption.map
        (·.selectedProviderId)) = some (some "knowledge.second") := by decide +kernel
  obtain ⟨decision, isDecision, isSecond⟩ := Option.map_eq_some_iff.mp decided
  refine ⟨⟨Sample.searchProvider "knowledge.first" 10 false, List.mem_cons_self, rfl, ?_,
    by decide +kernel⟩, decision, eq_ok_of_mem_toOption isDecision, isSecond⟩
  have available : Available (some Sample.searchSnapshot) Sample.searchPolicy 5
      (Sample.searchProvider "knowledge.first" 10 false) :=
    availabilityOf_eq_nil_iff.mp (by decide +kernel)
  exact
    { capable := by decide +kernel
      enabled := by decide
      available := available
      classified := by decide
      allowed := by decide
      included := by decide
      affordable := by decide
      prompt := by decide }

end PolicyOS.Execution.Resolution
